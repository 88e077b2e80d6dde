import UiScaffold.Proofs.FileSystem.Site

/-!
Where paths break off.

A path that leads somewhere goes on leading there while directories are made and files are written.
A path that leads nowhere may come to lead somewhere, but only when something comes to stand at a
place that it misses.
-/

set_option autoImplicit false
set_option relaxedAutoImplicit false

namespace UiScaffold.FileSystem

/-- Steps that come to a place where nothing stands, through all links. -/
inductive Misses (fs : FileSystem) : Location → List PathStep → Location → Prop
  | here {location : Location} {steps : List PathStep} :
      fs.get? location = none → Misses fs location steps location
  | stay {location place : Location} {rest : List PathStep} :
      fs.get? location = some .directory → Misses fs location rest place →
      Misses fs location (.stay :: rest) place
  | up {location place : Location} {rest : List PathStep} :
      fs.get? location = some .directory → Misses fs location.dropLast rest place →
      Misses fs location (.up :: rest) place
  | enter {location place : Location} {name : String} {rest : List PathStep} :
      fs.get? location = some .directory → name.utf8ByteSize ≤ Path.maxNameLength →
      (∀ path, fs.get? (location ++ [name]) ≠ some (.link path)) →
      Misses fs (location ++ [name]) rest place → Misses fs location (.enter name :: rest) place
  | turn {location place : Location} {name : String} {path : Path} {rest : List PathStep} :
      fs.get? location = some .directory → name.utf8ByteSize ≤ Path.maxNameLength →
      fs.get? (location ++ [name]) = some (.link path) →
      Misses fs (base location path) (path.steps ++ rest) place →
      Misses fs location (.enter name :: rest) place

/-- A path that comes to a place where nothing stands. -/
def PathMisses (fs : FileSystem) (path : Path) (place : Location) : Prop :=
  fs.Misses (base fs.workingDirectory path) path.steps place

variable {fs before after : FileSystem} {location middle place : Location}
  {steps rest : List PathStep} {path : Path}

namespace Misses

theorem get? (h : fs.Misses location steps place) : fs.get? place = none := by
  induction h with
  | here none => exact none
  | stay _ _ ih | up _ _ ih | enter _ _ _ _ ih | turn _ _ _ _ ih => exact ih

theorem after_route {n : Nat} (h : fs.Misses location (steps ++ rest) place)
    (route : Route fs true location steps n (.existing middle)) : fs.Misses middle rest place := by
  generalize end_of_route : Target.existing middle = target at route
  induction route with
  | done =>
    cases end_of_route
    exact h
  | stay here _ ih =>
    cases h with
    | here none => simp [here] at none
    | stay _ h => exact ih h end_of_route
  | up here _ ih =>
    cases h with
    | here none => simp [here] at none
    | up _ h => exact ih h end_of_route
  | enter here _ found plain _ ih =>
    cases h with
    | here none => simp [here] at none
    | enter _ _ _ h => exact ih h end_of_route
    | turn _ _ found' => exact absurd (Option.some.inj (found.symm.trans found')) (plain _)
  | turn here _ found _ _ ih =>
    cases h with
    | here none => simp [here] at none
    | enter _ _ plain => exact absurd found (plain _)
    | turn _ _ found' h =>
      cases found.symm.trans found'
      exact ih (by rwa [List.append_assoc]) end_of_route
  | keep _ _ _ stop => cases stop
  | vacant => cases end_of_route

/-- Steps that never go up miss places below only, when there are no links. -/
theorem downward (h : fs.Misses location steps place) (free : fs.LinkFree location)
    (onward : .up ∉ steps) : location <+: place := by
  induction h with
  | here => exact List.prefix_rfl
  | stay _ _ ih => exact ih free fun up => onward (List.mem_cons_of_mem _ up)
  | up => exact absurd List.mem_cons_self onward
  | enter _ _ _ _ ih =>
    refine (List.prefix_append _ _).trans (ih ?_ fun up => onward (List.mem_cons_of_mem _ up))
    exact fun under h => free under ((List.prefix_append _ _).trans h)
  | turn _ _ found => exact absurd found (free _ (List.prefix_append _ _) _)

private theorem of_turned {directory : Location} {target : Path} {more : List PathStep}
    (turned : fs.advance true location steps = .ok (.turned directory target more))
    (h : fs.Misses (base directory target) (target.steps ++ more) place) :
    fs.Misses location steps place := by
  induction steps generalizing location with
  | nil => cases turned
  | cons step rest ih =>
    by_cases here : fs.get? location = some .directory
    · cases step with
      | stay => exact .stay here (ih (advance_stay here ▸ turned))
      | up => exact .up here (ih (advance_up here ▸ turned))
      | enter name =>
        by_cases short : name.utf8ByteSize ≤ Path.maxNameLength
        · rw [advance_enter here short] at turned
          cases found : fs.get? (location ++ [name]) with
          | none =>
            simp only [found] at turned
            split at turned <;> cases turned
          | some entry =>
            cases entry with
            | link path =>
              simp only [found, Bool.true_eq_false, and_false, if_false] at turned
              cases turned
              exact .turn here short found h
            | directory | file contents mode =>
              exact .enter here short (by simp [found]) (ih (by simpa only [found] using turned))
        · rw [advance_enter_long here (Nat.not_le.mp short)] at turned
          cases turned
    · rw [advance_away here] at turned
      cases turned

end Misses

section Changes

variable {directories files : Location → Prop} (change : Changes directories files before after)
include change

private theorem advance_eq
    (still : ∀ place, before.Misses location steps place → after.get? place = none) :
    after.advance true location steps = before.advance true location steps := by
  induction steps generalizing location with
  | nil => rfl
  | cons step rest ih =>
    by_cases here : before.get? location = some .directory
    · have here' := change.directory here
      cases step with
      | stay =>
        rw [advance_stay here, advance_stay here']
        exact ih fun place h => still place (.stay here h)
      | up =>
        rw [advance_up here, advance_up here']
        exact ih fun place h => still place (.up here h)
      | enter name =>
        by_cases short : name.utf8ByteSize ≤ Path.maxNameLength
        · rw [advance_enter here short, advance_enter here' short]
          have onward (plain : ∀ path, before.get? (location ++ [name]) ≠ some (.link path)) :
              after.advance true (location ++ [name]) rest =
                before.advance true (location ++ [name]) rest :=
            ih fun place h => still place (.enter here short plain h)
          cases found : before.get? (location ++ [name]) with
          | none =>
            have vacant := still _ (.enter here short (by simp [found]) (.here found))
            simp only [vacant]
          | some entry =>
            cases entry with
            | directory => simp only [change.directory found, onward (by simp [found])]
            | file contents mode =>
              obtain ⟨contents', mode', found'⟩ := change.file found
              simp only [found', onward (by simp [found])]
            | link path => simp only [change.link found]
        · rw [advance_enter_long here (Nat.not_le.mp short),
            advance_enter_long here' (Nat.not_le.mp short)]
    · have away : after.get? location ≠ some .directory := by
        intro there
        cases found : before.get? location with
        | none => simp [still location (.here found)] at there
        | some entry =>
          cases entry with
          | directory => exact here found
          | file contents mode =>
            obtain ⟨contents', mode', found'⟩ := change.file found
            simp [found'] at there
          | link path => simp [change.link found] at there
      rw [advance_away here, advance_away away]

private theorem follow_eq (links : Nat)
    (still : ∀ place, before.Misses location steps place → after.get? place = none) :
    after.follow true links location steps = before.follow true links location steps := by
  induction links generalizing location steps with
  | zero => rw [follow, follow, advance_eq change still]
  | succ links ih =>
    rw [follow, follow, advance_eq change still]
    cases found : before.advance true location steps with
    | error e => rfl
    | ok passage =>
      cases passage with
      | arrived target => rfl
      | turned directory target rest =>
        exact ih fun place h => still place (h.of_turned found)

/-- A path leads where it led, or fails as it failed, unless it finds something that it missed. -/
theorem resolve_eq (still : ∀ place, before.PathMisses path place → after.get? place = none) :
    after.resolve true path = before.resolve true path := by
  rw [resolve, resolve, change.workingDirectory, follow_eq change maxLinks still]

theorem locate_eq (still : ∀ place, before.PathMisses path place → after.get? place = none) :
    after.locate path = before.locate path := by
  rw [locate, locate, resolve_eq change still]

end Changes

end UiScaffold.FileSystem
