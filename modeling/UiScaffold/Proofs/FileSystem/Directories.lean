import UiScaffold.FileSystem.Action
import UiScaffold.Proofs.Effect
import UiScaffold.Proofs.FileSystem.Site

/-!
Making directories.

Making a directory with what is missing on the way to it adds directories and nothing else. Each of
them is what the path or one of its ancestors leads to afterwards.
-/

set_option autoImplicit false
set_option relaxedAutoImplicit false

namespace UiScaffold

open FileSystem (Changes Change Route maxLinks base)

/-- A change that makes directories only, and only where one of the paths leads afterwards. -/
structure FileSystem.MadeAlong (paths : List Path) (before after : FileSystem) : Prop where
  changes : Changes (fun location => ∃ path ∈ paths, after.Leads path location) (fun _ => False)
    before after
  tree : before.IsTree → after.IsTree

def FileSystem.LeadsToDirectory (fs : FileSystem) (path : Path) : Prop :=
  ∃ location, fs.Leads path location ∧ fs.get? location = some .directory

/-- A path that leads to a directory and is not refused for its spelling. -/
structure FileSystem.Reaches (fs : FileSystem) (path : Path) : Prop where
  accepted : path.refusal? = none
  there : fs.LeadsToDirectory path

namespace FileSystem

variable {before middle after fs : FileSystem} {path : Path} {paths paths' : List Path}

namespace MadeAlong

theorem refl : MadeAlong paths fs fs := ⟨Changes.refl, id⟩

private theorem mono (h : MadeAlong paths before after) (more : ∀ path ∈ paths, path ∈ paths') :
    MadeAlong paths' before after := by
  refine ⟨h.changes.mono ?_ fun _ none => none, h.tree⟩
  rintro location - ⟨path, listed, leads⟩
  exact ⟨path, more path listed, leads⟩

private theorem trans (first : MadeAlong paths before middle)
    (second : MadeAlong paths middle after) : MadeAlong paths before after := by
  refine ⟨(first.changes.mono ?_ fun _ none => none).trans second.changes, second.tree ∘ first.tree⟩
  rintro location - ⟨path, listed, leads⟩
  exact ⟨path, listed, leads.of_changes second.changes⟩

end MadeAlong

private theorem LeadsToDirectory.of_changes {directories files : Location → Prop}
    (change : Changes directories files before after) (h : before.LeadsToDirectory path) :
    after.LeadsToDirectory path := by
  obtain ⟨location, leads, here⟩ := h
  exact ⟨location, leads.of_changes change, change.directory here⟩

theorem Reaches.of_changes {directories files : Location → Prop}
    (change : Changes directories files before after) (h : before.Reaches path) :
    after.Reaches path :=
  ⟨h.accepted, h.there.of_changes change⟩

theorem reaches_of_isDirectory (h : fs.isDirectory path = true) : fs.Reaches path := by
  unfold isDirectory at h
  split at h
  · rename_i found
    obtain ⟨location, located, here⟩ := status_eq_ok.mp found
    exact ⟨(resolve_eq_ok.mp (locate_eq_ok.mp located)).1, location, .of_locate located, here⟩
  · cases h

theorem Reaches.isDirectory (h : fs.Reaches path) : fs.isDirectory path = true := by
  obtain ⟨accepted, location, leads, here⟩ := h
  obtain ⟨n, few, route⟩ := leads_iff.mp leads
  have located := locate_eq_ok.mpr (resolve_eq_ok.mpr ⟨accepted, n, few, route.of_trim here⟩)
  simp only [FileSystem.isDirectory, status_eq_ok.mpr ⟨location, located, here⟩]

theorem exists_leads (there : path.isEmpty = true ∨ fs.LeadsToDirectory path) :
    ∃ location, fs.Leads path location := by
  rcases there with empty | ⟨location, leads, -⟩
  · obtain ⟨-, way⟩ := Path.of_isEmpty empty
    refine ⟨base fs.workingDirectory path, leads_iff.mpr ⟨0, Nat.zero_le _, ?_⟩⟩
    rw [way]
    exact .done
  · exact ⟨location, leads⟩

end FileSystem

namespace FileAction

variable {before after fs : FileSystem} {path : Path} {paths passed passed' : List Path}
  {e : OsError}

theorem ask_eq_ok {α : Type} {query : FileSystem → Except OsError α} {a : α} :
    ask query before = .ok a after ↔ query before = .ok a ∧ after = before := by
  unfold ask
  cases query before <;> simp [eq_comm]

private theorem trim_bare (pieces : List String) :
    PathStep.trim ((pieces.rdropWhile (· == "")).map PathStep.ofPiece) =
      PathStep.trim (pieces.map PathStep.ofPiece) := by
  obtain ⟨n, same⟩ := exists_replicate (p := (· == "")) (x := "") (by simp) pieces
  have stays : PathStep.trim ((List.replicate n "").map PathStep.ofPiece) = [] := by
    rw [List.map_replicate, PathStep.trim, List.rdropWhile_eq_nil_iff]
    intro step h
    rw [List.eq_of_mem_replicate h]
    rfl
  conv_rhs => rw [same, List.map_append, PathStep.trim_append, if_pos stays]

private theorem of_withoutSlash : (withoutSlash path).isAbsolute = path.isAbsolute ∧
    (withoutSlash path).way = path.way := by
  by_cases abs : path.isAbsolute = true
  · have bare : withoutSlash path = .absolute (path.pieces.tail.rdropWhile (· == "")) := if_pos abs
    rw [bare, Path.way_absolute, trim_bare, Path.isAbsolute_absolute, abs, Path.way, Path.steps,
      if_pos abs]
    exact ⟨rfl, rfl⟩
  · have bare : withoutSlash path = ⟨path.pieces.rdropWhile (· == "")⟩ := if_neg abs
    have rel : path.isAbsolute = false := Bool.eq_false_iff.mpr abs
    have rel' : Path.isAbsolute ⟨path.pieces.rdropWhile (· == "")⟩ = false := by
      refine Bool.eq_false_iff.mpr fun abs' => abs ?_
      obtain ⟨pieces⟩ := path
      obtain ⟨rest, same⟩ := List.rdropWhile_prefix (· == "") pieces
      cases start : pieces.rdropWhile (· == "") with
      | nil => simp [start, Path.isAbsolute] at abs'
      | cons first more =>
        rw [start, Path.isAbsolute_cons] at abs'
        rw [← same, start, List.cons_append, Path.isAbsolute_cons]
        exact ⟨abs'.1, List.append_ne_nil_of_left_ne_nil abs'.2 rest⟩
    rw [bare, Path.way_of_relative rel', Path.way_of_relative rel, trim_bare, rel, rel']
    exact ⟨rfl, rfl⟩

private theorem makeDirectory_cases (path : Path) (fs : FileSystem) :
    (∃ directory name n, n ≤ maxLinks ∧ path.refusal? = none ∧
      Route fs false (base fs.workingDirectory path) path.way n (.vacant directory name) ∧
      makeDirectory path fs = .ok () (fs.put (directory ++ [name]) .directory)) ∨
    ∃ e, makeDirectory path fs = .error e fs := by
  unfold makeDirectory
  cases accepted : path.refusal? with
  | some e => exact .inr ⟨e, rfl⟩
  | none =>
    simp only
    cases found : fs.follow false maxLinks (base fs.workingDirectory path)
        (withoutSlash path).steps with
    | error e => exact .inr ⟨e, rfl⟩
    | ok target =>
      cases target with
      | existing location => exact .inr ⟨_, rfl⟩
      | vacant directory name =>
        obtain ⟨n, few, route⟩ := FileSystem.follow_eq_ok.mp found
        exact .inl ⟨directory, name, n, few, trivial, of_withoutSlash.2 ▸ route.trim_of_vacant, rfl⟩

/-- A directory that is ensured is made where nothing stood, or was there. -/
theorem ensureDirectory_cases (h : ensureDirectory path before = .ok () after) :
    path.refusal? = none ∧
      ((∃ directory name n, n ≤ maxLinks ∧
        Route before false (base before.workingDirectory path) path.way n
          (.vacant directory name) ∧
        after = before.put (directory ++ [name]) .directory) ∨
      before.isDirectory path = true ∧ after = before) := by
  unfold ensureDirectory at h
  rcases makeDirectory_cases path before with
    ⟨directory, name, n, few, accepted, route, done⟩ | ⟨e, refused⟩
  · rw [done] at h
    obtain rfl := (EStateM.Result.ok.inj h).2
    exact ⟨accepted, .inl ⟨directory, name, n, few, route, rfl⟩⟩
  · rw [refused] at h
    cases e with
    | alreadyExists =>
      simp only at h
      split at h
      · rename_i found
        obtain rfl := (EStateM.Result.ok.inj h).2
        exact ⟨(FileSystem.reaches_of_isDirectory found).accepted, .inr ⟨found, rfl⟩⟩
      · cases h
    | _ => cases h

private theorem ensureDirectory_ok (h : ensureDirectory path before = .ok () after) :
    before.MadeAlong [path] after ∧ after.Reaches path := by
  obtain ⟨accepted, ⟨directory, name, n, few, route, rfl⟩ | ⟨found, rfl⟩⟩ := ensureDirectory_cases h
  · have change : Changes (fun location => location = directory ++ [name]) (fun _ => False) before
        (before.put (directory ++ [name]) .directory) :=
      Changes.of_put (route.get?_vacant.2 ▸ .made rfl)
    have made : (before.put (directory ++ [name]) .directory).get? (directory ++ [name]) =
        some .directory := FileSystem.get?_put_self (by simp)
    have leads : (before.put (directory ++ [name]) .directory).Leads path (directory ++ [name]) :=
      FileSystem.leads_iff.mpr ⟨n, few, route.of_made change made (by simp)⟩
    have normal : Path.isNormal name = true := route.isNormal_of_vacant fun other h =>
      Path.isNormal_of_mem_steps (PathStep.trim_prefix.subset h)
    refine ⟨⟨change.mono ?_ fun _ none => none, fun tree => ?_⟩, accepted, _, leads, made⟩
    · rintro location - rfl
      exact ⟨path, List.mem_singleton_self path, leads⟩
    · exact tree.put route.get?_vacant.1 normal fun _ => rfl
  · exact ⟨.refl, FileSystem.reaches_of_isDirectory found⟩

theorem ensureDirectory_error (h : ensureDirectory path before = .error e after) :
    after = before := by
  unfold ensureDirectory at h
  rcases makeDirectory_cases path before with ⟨directory, name, n, -, -, -, done⟩ | ⟨e', refused⟩
  · rw [done] at h
    cases h
  · rw [refused] at h
    cases e' with
    | alreadyExists =>
      simp only at h
      split at h <;> cases h
      rfl
    | _ =>
      cases h
      rfl

theorem climb_error (h : climb passed paths before = .error e after) : after = before := by
  induction paths generalizing passed before with
  | nil => cases h
  | cons path rest ih =>
    rw [climb] at h
    split at h
    · cases h
    · simp only at h
      split at h
      · cases h
      · rename_i fs missing
        obtain rfl := ensureDirectory_error missing
        exact ih h
      · rename_i e' fs _ refused
        cases h
        exact ensureDirectory_error refused

/-- The way up ends at a directory or at the end of all paths; those that were passed are listed. -/
private theorem climb_ok (h : climb passed paths before = .ok passed' after) :
    before.MadeAlong paths after ∧
      (∃ front, passed' = front ++ passed ∧ ∀ path ∈ front, path ∈ paths) ∧
      ∀ path rest, paths = path :: rest → path.isEmpty = true ∨ path.parent = none ∨
        path ∈ passed' ∨ after.Reaches path := by
  induction paths generalizing passed before with
  | nil =>
    cases h
    exact ⟨.refl, ⟨[], rfl, by simp⟩, by simp⟩
  | cons path rest ih =>
    rw [climb] at h
    split at h
    · rename_i last
      cases h
      refine ⟨.refl, ⟨[], rfl, by simp⟩, fun first more same => ?_⟩
      obtain ⟨rfl, -⟩ := List.cons.inj same
      simp only [Bool.or_eq_true, Option.isNone_iff_eq_none] at last
      exact last.imp_right .inl
    · simp only at h
      split at h
      · rename_i fs done
        cases h
        obtain ⟨made, here⟩ := ensureDirectory_ok done
        refine ⟨made.mono (by simp), ⟨[], rfl, by simp⟩, fun first more same => ?_⟩
        obtain ⟨rfl, -⟩ := List.cons.inj same
        exact .inr (.inr (.inr here))
      · rename_i fs missing
        obtain rfl := ensureDirectory_error missing
        obtain ⟨made, ⟨front, rfl, listed⟩, -⟩ := ih h
        refine ⟨made.mono (by simp +contextual), ⟨front ++ [path], by simp, ?_⟩, ?_⟩
        · intro other h
          rcases List.mem_append.mp h with h | h
          · exact List.mem_cons_of_mem _ (listed other h)
          · simp_all
        · intro first more same
          obtain ⟨rfl, -⟩ := List.cons.inj same
          exact .inr (.inr (.inl (by simp)))
      · cases h

private theorem forM_ensureDirectory_ok (h : paths.forM ensureDirectory before = .ok () after) :
    before.MadeAlong paths after ∧ ∀ path ∈ paths, after.Reaches path := by
  induction paths generalizing before with
  | nil =>
    cases h
    exact ⟨.refl, by simp⟩
  | cons path rest ih =>
    obtain ⟨⟨⟩, middle, first, h⟩ := Effect.bind_eq_ok.mp h
    obtain ⟨made, here⟩ := ensureDirectory_ok first
    obtain ⟨made', all⟩ := ih h
    refine ⟨(made.mono (by simp)).trans (made'.mono (by simp +contextual)), ?_⟩
    intro other listed
    rcases List.mem_cons.mp listed with rfl | listed
    · exact here.of_changes made'.changes
    · exact all other listed

theorem makeDirectories_reaches (h : makeDirectories path before = .ok () after) :
    before.MadeAlong path.ancestors after ∧
      (path.isEmpty = true ∨ path.parent = none ∨ after.Reaches path) := by
  obtain ⟨missing, middle, climbed, h⟩ := Effect.bind_eq_ok.mp h
  obtain ⟨made, ⟨front, same, listed⟩, first⟩ := climb_ok climbed
  rw [List.append_nil] at same
  subst same
  obtain ⟨made', all⟩ := forM_ensureDirectory_ok h
  refine ⟨made.trans (made'.mono listed), ?_⟩
  rcases first path _ rfl with empty | root | passed | here
  · exact .inl empty
  · exact .inr (.inl root)
  · exact .inr (.inr (all path passed))
  · exact .inr (.inr (here.of_changes made'.changes))

theorem makeDirectories_ok (h : makeDirectories path before = .ok () after) :
    before.MadeAlong path.ancestors after ∧
      (path.isEmpty = true ∨ after.LeadsToDirectory path) := by
  obtain ⟨made, empty | root | here⟩ := makeDirectories_reaches h
  · exact ⟨made, .inl empty⟩
  · refine ⟨made, (Path.of_parent_eq_none root).imp_right fun ⟨abs, way⟩ => ⟨[], ?_, rfl⟩⟩
    rw [FileSystem.leads_iff, way, base, if_pos abs]
    exact ⟨0, Nat.zero_le _, .done⟩
  · exact ⟨made, .inr here.there⟩

private theorem ensureDirectory_of_reaches (h : fs.Reaches path) :
    ensureDirectory path fs = .ok () fs := by
  obtain ⟨location, leads, here⟩ := h.there
  obtain ⟨n, few, route⟩ := FileSystem.leads_iff.mp leads
  have bare : Route fs true (base fs.workingDirectory path) (withoutSlash path).steps n
      (.existing location) := by
    refine .of_trim ?_ here
    rw [← Path.way, of_withoutSlash.2]
    exact route
  obtain ⟨m, fewer, location', found⟩ := bare.unfollowed
  have exists_already : makeDirectory path fs = .error .alreadyExists fs := by
    simp only [makeDirectory, h.accepted,
      FileSystem.follow_eq_ok.mpr ⟨m, fewer.trans few, found⟩]
  simp only [ensureDirectory, exists_already, h.isDirectory, if_true]

theorem makeDirectories_of_reaches
    (h : path.isEmpty = true ∨ path.parent = none ∨ fs.Reaches path) :
    makeDirectories path fs = .ok () fs := by
  have climbed : climb [] path.ancestors fs = .ok [] fs := by
    have start : path.ancestors = path :: _ := rfl
    rw [start, climb]
    split
    · rfl
    · rename_i further
      simp only [Bool.or_eq_true, Option.isNone_iff_eq_none, not_or] at further
      have here := (h.resolve_left further.1).resolve_left further.2
      simp only [ensureDirectory_of_reaches here]
  exact Effect.bind_eq_ok.mpr ⟨[], fs, climbed, rfl⟩

/-- Directories that were made need not be made again. -/
theorem makeDirectories_again {directories files : Location → Prop}
    (h : makeDirectories path before = .ok () fs) (change : Changes directories files fs after) :
    makeDirectories path after = .ok () after :=
  makeDirectories_of_reaches <|
    (makeDirectories_reaches h).2.imp_right fun more => more.imp_right (.of_changes change)

/-- Directories that could not all be made were made along the ancestors of the path. -/
theorem makeDirectories_error (h : makeDirectories path before = .error e after) :
    before.MadeAlong path.ancestors after := by
  rcases Effect.bind_eq_error.mp h with h | ⟨missing, middle, climbed, h⟩
  · rw [climb_error h]
    exact .refl
  · obtain ⟨made, ⟨front, same, listed⟩, -⟩ := climb_ok climbed
    rw [List.append_nil] at same
    subst same
    obtain ⟨done, other, rest, fs, rfl, first, refused⟩ := Effect.forM_eq_error.mp h
    obtain ⟨made', -⟩ := forM_ensureDirectory_ok first
    rw [ensureDirectory_error refused]
    exact made.trans (made'.mono fun path h => listed path (List.mem_append_left _ h))

end FileAction

end UiScaffold
