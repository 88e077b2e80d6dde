import UiScaffold.FileSystem.Resolve
import UiScaffold.Proofs.FileSystem.Tree

/-!
Routes: where steps lead, one step at a time.

A route goes along steps, through a number of links, to a target. Routes are what the bounded walk
along a path finds; they can be joined and cut, lead to one target only, and stay as they are while
directories are made and files are written.
-/

set_option autoImplicit false
set_option relaxedAutoImplicit false

namespace UiScaffold.FileSystem

/-- The way along steps to a target, with the number of links on it. -/
inductive Route (fs : FileSystem) (followLast : Bool) :
    Location → List PathStep → Nat → Target → Prop
  | done {location : Location} : Route fs followLast location [] 0 (.existing location)
  | stay {location : Location} {rest : List PathStep} {links : Nat} {target : Target} :
      fs.get? location = some .directory → Route fs followLast location rest links target →
      Route fs followLast location (.stay :: rest) links target
  | up {location : Location} {rest : List PathStep} {links : Nat} {target : Target} :
      fs.get? location = some .directory → Route fs followLast location.dropLast rest links target →
      Route fs followLast location (.up :: rest) links target
  | enter {location : Location} {name : String} {entry : Entry} {rest : List PathStep} {links : Nat}
      {target : Target} :
      fs.get? location = some .directory → name.utf8ByteSize ≤ Path.maxNameLength →
      fs.get? (location ++ [name]) = some entry → (∀ path, entry ≠ .link path) →
      Route fs followLast (location ++ [name]) rest links target →
      Route fs followLast location (.enter name :: rest) links target
  | turn {location : Location} {name : String} {path : Path} {rest : List PathStep} {links : Nat}
      {target : Target} :
      fs.get? location = some .directory → name.utf8ByteSize ≤ Path.maxNameLength →
      fs.get? (location ++ [name]) = some (.link path) → (rest ≠ [] ∨ followLast = true) →
      Route fs followLast (base location path) (path.steps ++ rest) links target →
      Route fs followLast location (.enter name :: rest) (links + 1) target
  | keep {location : Location} {name : String} {path : Path} :
      fs.get? location = some .directory → name.utf8ByteSize ≤ Path.maxNameLength →
      fs.get? (location ++ [name]) = some (.link path) → followLast = false →
      Route fs followLast location [.enter name] 0 (.existing (location ++ [name]))
  | vacant {location : Location} {name : String} :
      fs.get? location = some .directory → name.utf8ByteSize ≤ Path.maxNameLength →
      fs.get? (location ++ [name]) = none →
      Route fs followLast location [.enter name] 0 (.vacant location name)

variable {fs : FileSystem} {followLast : Bool} {location : Location} {steps rest : List PathStep}
  {links : Nat} {target : Target}

section Advance

variable {name : String} (here : fs.get? location = some .directory)
include here

theorem advance_stay :
    fs.advance followLast location (.stay :: rest) = fs.advance followLast location rest := by
  rw [advance, hasDirectory_iff.mpr here]
  rfl

theorem advance_up :
    fs.advance followLast location (.up :: rest) =
      fs.advance followLast location.dropLast rest := by
  rw [advance, hasDirectory_iff.mpr here]
  rfl

theorem advance_enter (short : name.utf8ByteSize ≤ Path.maxNameLength) :
    fs.advance followLast location (.enter name :: rest) =
      match fs.get? (location ++ [name]) with
      | none => if rest = [] then .ok (.arrived (.vacant location name)) else .error .notFound
      | some (.link path) =>
        if rest = [] ∧ followLast = false then .ok (.arrived (.existing (location ++ [name])))
        else .ok (.turned location path rest)
      | some _ => fs.advance followLast (location ++ [name]) rest := by
  rw [advance, hasDirectory_iff.mpr here]
  exact if_neg (Nat.not_lt.mpr short)

theorem advance_enter_long (long : Path.maxNameLength < name.utf8ByteSize) :
    fs.advance followLast location (.enter name :: rest) = .error .nameTooLong := by
  rw [advance, hasDirectory_iff.mpr here]
  exact if_pos long

end Advance

theorem advance_away {step : PathStep} (away : fs.get? location ≠ some .directory) :
    fs.advance followLast location (step :: rest) = .error .notADirectory := by
  have closed : fs.hasDirectory location = false :=
    Bool.eq_false_iff.mpr fun found => away (hasDirectory_iff.mp found)
  cases step <;> rw [advance, closed] <;> rfl

private theorem route_of_advance {passage : Passage}
    (h : fs.advance followLast location steps = .ok passage) :
    (∀ target, passage = .arrived target → Route fs followLast location steps 0 target) ∧
    (∀ directory path rest links target, passage = .turned directory path rest →
      Route fs followLast (base directory path) (path.steps ++ rest) links target →
      Route fs followLast location steps (links + 1) target) := by
  induction steps generalizing location with
  | nil =>
    cases h
    refine ⟨fun target same => ?_, (fun _ _ _ _ _ same => nomatch same)⟩
    cases same
    exact .done
  | cons step rest ih =>
    by_cases here : fs.get? location = some .directory
    · cases step with
      | stay =>
        obtain ⟨arrived, turned⟩ := ih (advance_stay here ▸ h)
        exact ⟨fun t same => .stay here (arrived t same),
          fun d p r n t same more => .stay here (turned d p r n t same more)⟩
      | up =>
        obtain ⟨arrived, turned⟩ := ih (advance_up here ▸ h)
        exact ⟨fun t same => .up here (arrived t same),
          fun d p r n t same more => .up here (turned d p r n t same more)⟩
      | enter name =>
        by_cases short : name.utf8ByteSize ≤ Path.maxNameLength
        · rw [advance_enter here short] at h
          cases found : fs.get? (location ++ [name]) with
          | none =>
            simp only [found] at h
            split at h <;> cases h
            rename_i last
            subst last
            refine ⟨fun target same => ?_, (fun _ _ _ _ _ same => nomatch same)⟩
            cases same
            exact .vacant here short found
          | some entry =>
            cases entry with
            | link path =>
              simp only [found] at h
              split at h <;> cases h
              · rename_i last
                obtain ⟨rfl, stop⟩ := last
                refine ⟨fun target same => ?_, (fun _ _ _ _ _ same => nomatch same)⟩
                cases same
                exact .keep here short found stop
              · rename_i onward
                have onward : rest ≠ [] ∨ followLast = true := by
                  cases followLast <;> simp_all
                refine ⟨(fun _ same => nomatch same), fun d p r n t same more => ?_⟩
                cases same
                exact .turn here short found onward more
            | directory | file contents mode =>
              obtain ⟨arrived, turned⟩ := ih (by simpa only [found] using h)
              exact ⟨fun t same => .enter here short found (by simp) (arrived t same),
                fun d p r n t same more =>
                  .enter here short found (by simp) (turned d p r n t same more)⟩
        · rw [advance_enter_long here (Nat.not_le.mp short)] at h
          cases h
    · rw [advance_away here] at h
      cases h

private theorem route_of_follow (h : fs.follow followLast links location steps = .ok target) :
    ∃ n ≤ links, Route fs followLast location steps n target := by
  induction links generalizing location steps with
  | zero =>
    rw [follow] at h
    cases found : fs.advance followLast location steps with
    | error e => simp [found] at h
    | ok passage =>
      cases passage with
      | arrived other =>
        simp only [found, Except.ok.injEq] at h
        exact ⟨0, Nat.le_refl 0, (route_of_advance found).1 target (h ▸ rfl)⟩
      | turned directory path rest => simp [found] at h
  | succ links ih =>
    rw [follow] at h
    cases found : fs.advance followLast location steps with
    | error e => simp [found] at h
    | ok passage =>
      cases passage with
      | arrived other =>
        simp only [found, Except.ok.injEq] at h
        exact ⟨0, Nat.zero_le _, (route_of_advance found).1 target (h ▸ rfl)⟩
      | turned directory path rest =>
        simp only [found] at h
        obtain ⟨n, few, more⟩ := ih h
        exact ⟨n + 1, Nat.succ_le_succ few,
          (route_of_advance found).2 directory path rest n target rfl more⟩

private theorem follow_congr {location' : Location} {steps' : List PathStep}
    (h : fs.advance followLast location steps = fs.advance followLast location' steps') :
    fs.follow followLast links location steps = fs.follow followLast links location' steps' := by
  cases links <;> rw [follow, follow, h]

private theorem follow_arrived (h : fs.advance followLast location steps = .ok (.arrived target)) :
    fs.follow followLast links location steps = .ok target := by
  cases links <;> rw [follow, h]

private theorem follow_of_route {n : Nat} (h : Route fs followLast location steps n target) :
    ∀ links, n ≤ links → fs.follow followLast links location steps = .ok target := by
  induction h with
  | done => exact fun links _ => follow_arrived rfl
  | stay here _ ih => exact fun links few => (follow_congr (advance_stay here)).trans (ih links few)
  | up here _ ih => exact fun links few => (follow_congr (advance_up here)).trans (ih links few)
  | @enter location name entry rest n target here short found plain _ ih =>
    intro links few
    refine (follow_congr ?_).trans (ih links few)
    rw [advance_enter here short, found]
    cases entry with
    | link path => exact absurd rfl (plain path)
    | directory | file contents mode => rfl
  | @turn location name path rest n target here short found onward _ ih =>
    intro links few
    obtain ⟨links, rfl⟩ : ∃ m, links = m + 1 := ⟨links - 1, by omega⟩
    have turned : fs.advance followLast location (.enter name :: rest) =
        .ok (.turned location path rest) := by
      rw [advance_enter here short, found]
      refine if_neg fun last => ?_
      rcases onward with onward | onward
      · exact onward last.1
      · simp [last.2] at onward
    rw [follow, turned]
    exact ih links (by omega)
  | keep here short found stop =>
    intro links _
    refine follow_arrived ?_
    rw [advance_enter here short, found]
    exact if_pos ⟨rfl, stop⟩
  | vacant here short found =>
    intro links _
    refine follow_arrived ?_
    rw [advance_enter here short, found]
    rfl

/-- The bounded walk along steps finds the routes with few links. -/
theorem follow_eq_ok : fs.follow followLast links location steps = .ok target ↔
    ∃ n ≤ links, Route fs followLast location steps n target :=
  ⟨route_of_follow, fun ⟨_, few, h⟩ => follow_of_route h links few⟩

namespace Route

variable {middle : Location} {n m : Nat}

theorem unique {other : Target} (h : Route fs followLast location steps n target)
    (h' : Route fs followLast location steps m other) : n = m ∧ target = other := by
  induction h generalizing m with
  | done => cases h'; exact ⟨rfl, rfl⟩
  | stay _ _ ih =>
    cases h' with
    | stay _ more => exact ih more
  | up _ _ ih =>
    cases h' with
    | up _ more => exact ih more
  | enter _ _ found plain _ ih =>
    cases h' with
    | enter _ _ _ _ more => exact ih more
    | turn _ _ found' | keep _ _ found' =>
      exact absurd (Option.some.inj (found.symm.trans found')) (plain _)
    | vacant _ _ none => simp [found] at none
  | turn _ _ found onward _ ih =>
    cases h' with
    | enter _ _ found' plain =>
      exact absurd (Option.some.inj (found'.symm.trans found)) (plain _)
    | turn _ _ found' _ more =>
      cases found.symm.trans found'
      obtain ⟨rfl, rfl⟩ := ih more
      exact ⟨rfl, rfl⟩
    | keep _ _ _ stop => simp [stop] at onward
    | vacant _ _ none => simp [found] at none
  | keep _ _ found stop =>
    cases h' with
    | enter _ _ found' plain =>
      exact absurd (Option.some.inj (found'.symm.trans found)) (plain _)
    | turn _ _ _ onward => simp [stop] at onward
    | keep => exact ⟨rfl, rfl⟩
    | vacant _ _ none => simp [found] at none
  | vacant _ _ none =>
    cases h' with
    | enter _ _ found | turn _ _ found | keep _ _ found => simp [none] at found
    | vacant => exact ⟨rfl, rfl⟩

theorem append (first : Route fs true location steps n (.existing middle))
    (second : Route fs followLast middle rest m target) (more : rest ≠ []) :
    Route fs followLast location (steps ++ rest) (n + m) target := by
  generalize first_target : Target.existing middle = end_of_first at first
  induction first with
  | done =>
    cases first_target
    rw [List.nil_append, Nat.zero_add]
    exact second
  | stay here _ ih => exact .stay here (ih first_target)
  | up here _ ih => exact .up here (ih first_target)
  | enter here short found plain _ ih => exact .enter here short found plain (ih first_target)
  | @turn location name path steps n target' here short found onward _ ih =>
    rw [Nat.add_right_comm]
    refine .turn here short found (.inl ?_) ?_
    · exact List.append_ne_nil_of_right_ne_nil steps more
    · change Route fs followLast (base location path) (path.steps ++ (steps ++ rest)) (n + m) target
      rw [← List.append_assoc]
      exact ih first_target
  | keep _ _ _ stop => cases stop
  | vacant => cases first_target

/-- A route is cut where some of its steps end; only the last part may leave a link unfollowed. -/
theorem split (h : Route fs followLast location (steps ++ rest) n target) (more : rest ≠ []) :
    ∃ middle k m, n = k + m ∧ Route fs true location steps k (.existing middle) ∧
      Route fs followLast middle rest m target := by
  generalize all : steps ++ rest = path at h
  induction h generalizing steps with
  | done => exact absurd (List.append_eq_nil_iff.mp all).2 more
  | stay here h ih =>
    cases steps with
    | nil =>
      obtain rfl : rest = _ := all
      exact ⟨_, 0, _, (Nat.zero_add _).symm, .done, .stay here h⟩
    | cons step steps =>
      cases all
      obtain ⟨middle, k, m, rfl, first, second⟩ := ih rfl
      exact ⟨middle, k, m, rfl, .stay here first, second⟩
  | up here h ih =>
    cases steps with
    | nil =>
      obtain rfl : rest = _ := all
      exact ⟨_, 0, _, (Nat.zero_add _).symm, .done, .up here h⟩
    | cons step steps =>
      cases all
      obtain ⟨middle, k, m, rfl, first, second⟩ := ih rfl
      exact ⟨middle, k, m, rfl, .up here first, second⟩
  | enter here short found plain h ih =>
    cases steps with
    | nil =>
      obtain rfl : rest = _ := all
      exact ⟨_, 0, _, (Nat.zero_add _).symm, .done, .enter here short found plain h⟩
    | cons step steps =>
      cases all
      obtain ⟨middle, k, m, rfl, first, second⟩ := ih rfl
      exact ⟨middle, k, m, rfl, .enter here short found plain first, second⟩
  | turn here short found onward h ih =>
    cases steps with
    | nil =>
      obtain rfl : rest = _ := all
      exact ⟨_, 0, _, (Nat.zero_add _).symm, .done, .turn here short found onward h⟩
    | cons step steps =>
      cases all
      obtain ⟨middle, k, m, rfl, first, second⟩ := ih (List.append_assoc ..)
      refine ⟨middle, k + 1, m, by omega, .turn here short found (.inr rfl) first, second⟩
  | keep here short found stop =>
    cases steps with
    | nil =>
      obtain rfl : rest = _ := all
      exact ⟨_, 0, 0, rfl, .done, .keep here short found stop⟩
    | cons step steps => exact absurd (List.append_eq_nil_iff.mp (List.cons.inj all).2).2 more
  | vacant here short found =>
    cases steps with
    | nil =>
      obtain rfl : rest = _ := all
      exact ⟨_, 0, 0, rfl, .done, .vacant here short found⟩
    | cons step steps => exact absurd (List.append_eq_nil_iff.mp (List.cons.inj all).2).2 more

section Changes

variable {directories files : Location → Prop} {before after : FileSystem} {directory : Location}
  {name : String}

/-- A route to something that stands survives a change of the tree. -/
theorem of_changes (change : Changes directories files before after)
    (h : Route before followLast location steps n (.existing middle)) :
    Route after followLast location steps n (.existing middle) := by
  generalize end_of_route : Target.existing middle = target at h
  induction h with
  | done => exact .done
  | stay here _ ih => exact .stay (change.directory here) (ih end_of_route)
  | up here _ ih => exact .up (change.directory here) (ih end_of_route)
  | @enter location name entry rest n target here short found plain _ ih =>
    cases entry with
    | directory =>
      exact .enter (change.directory here) short (change.directory found) plain (ih end_of_route)
    | file contents mode =>
      obtain ⟨contents', mode', found'⟩ := change.file found
      exact .enter (change.directory here) short found' (by simp) (ih end_of_route)
    | link path => exact absurd rfl (plain path)
  | turn here short found onward _ ih =>
    exact .turn (change.directory here) short (change.link found) onward (ih end_of_route)
  | keep here short found stop =>
    exact .keep (change.directory here) short (change.link found) stop
  | vacant => cases end_of_route

theorem get?_of_enter
    (h : Route fs followLast location (.enter name :: steps) n (.existing middle)) :
    ∃ entry, fs.get? (location ++ [name]) = some entry := by
  generalize all : PathStep.enter name :: steps = path at h
  cases h with
  | done | stay | up => cases all
  | enter _ _ found | turn _ _ found | keep _ _ found =>
    cases all
    exact ⟨_, found⟩

theorem get?_vacant (h : Route fs followLast location steps n (.vacant directory name)) :
    fs.get? directory = some .directory ∧ fs.get? (directory ++ [name]) = none := by
  generalize end_of_route : Target.vacant directory name = target at h
  induction h with
  | done | keep => cases end_of_route
  | stay _ _ ih | up _ _ ih | enter _ _ _ _ _ ih | turn _ _ _ _ _ ih => exact ih end_of_route
  | vacant here _ none =>
    cases end_of_route
    exact ⟨here, none⟩

theorem of_made {entry : Entry} (change : Changes directories files before after)
    (made : after.get? (directory ++ [name]) = some entry) (plain : ∀ path, entry ≠ .link path)
    (h : Route before followLast location steps n (.vacant directory name)) :
    Route after true location steps n (.existing (directory ++ [name])) := by
  generalize end_of_route : Target.vacant directory name = target at h
  induction h with
  | done | keep => cases end_of_route
  | stay here _ ih => exact .stay (change.directory here) (ih end_of_route)
  | up here _ ih => exact .up (change.directory here) (ih end_of_route)
  | @enter location name entry rest n target here short found plain _ ih =>
    cases entry with
    | directory =>
      exact .enter (change.directory here) short (change.directory found) plain (ih end_of_route)
    | file contents mode =>
      obtain ⟨contents', mode', found'⟩ := change.file found
      exact .enter (change.directory here) short found' (by simp) (ih end_of_route)
    | link path => exact absurd rfl (plain path)
  | turn here short found _ _ ih =>
    exact .turn (change.directory here) short (change.link found) (.inr rfl) (ih end_of_route)
  | vacant here short none =>
    cases end_of_route
    exact .enter (change.directory here) short made plain .done

end Changes

end Route

end UiScaffold.FileSystem
