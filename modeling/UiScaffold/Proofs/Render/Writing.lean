import UiScaffold.Proofs.Render.Overlay

/-!
Where directories are made and files are written, told by paths.

An operation on a path makes directories where paths above it lead, and writes a file where the path
itself leads, through all links. A path goes on leading to the same place, so what several
operations do is told by their paths in view of the files at the end.
-/

set_option autoImplicit false
set_option relaxedAutoImplicit false

namespace UiScaffold

open Effect (Keeps)
open FileSystem (Changes Grows)

namespace FileSystem

/-- A change that makes directories only where the first paths lead and writes files only where the
second ones lead, after the change. The second paths may depend on the files after the change. -/
def WorksAt (made : Path → Prop) (written : FileSystem → Path → Prop)
    (before after : FileSystem) : Prop :=
  Changes (fun location => ∃ path, made path ∧ after.Leads path location)
    (fun location => ∃ path, written after path ∧ after.Leads path location) before after

/-- Paths of a kind that they keep while files grow. -/
def Stable (written : FileSystem → Path → Prop) : Prop :=
  ∀ before after path, Grows before after → written before path → written after path

variable {made made' : Path → Prop} {written written' : FileSystem → Path → Prop}
  {before after : FileSystem}

namespace WorksAt

theorem refl (fs : FileSystem) : WorksAt made written fs fs := Changes.refl

theorem grows (h : WorksAt made written before after) : Grows before after := .of_changes h

theorem trans (stable : Stable written) (before middle after : FileSystem)
    (first : WorksAt made written before middle) (second : WorksAt made written middle after) :
    WorksAt made written before after := by
  refine Changes.trans (Changes.mono first ?_ ?_) second
  · rintro location - ⟨path, listed, leads⟩
    exact ⟨path, listed, leads.of_changes second⟩
  · rintro location ⟨path, listed, leads⟩
    exact ⟨path, stable middle after path second.grows listed, leads.of_changes second⟩

theorem mono (h : WorksAt made written before after) (more : ∀ path, made path → made' path)
    (more' : ∀ path, written after path → written' after path) :
    WorksAt made' written' before after :=
  Changes.mono h (fun _ _ ⟨path, listed, leads⟩ => ⟨path, more path listed, leads⟩)
    fun _ ⟨path, listed, leads⟩ => ⟨path, more' path listed, leads⟩

theorem status (h : WorksAt made written before after) {path : Path} {entry : Entry}
    (found : before.status path = .ok entry)
    (away : ∀ location other, after.Leads path location → written after other →
      ¬ after.Leads other location) : after.status path = .ok entry := by
  refine status_of_changes h found ?_
  rintro location leads ⟨other, listed, leads'⟩
  exact away location other (leads.of_changes h) listed leads'

end WorksAt

theorem MadeAlong.worksAt {paths : List Path} (h : before.MadeAlong paths after) :
    WorksAt (· ∈ paths) written before after :=
  h.changes.mono (fun _ _ => id) fun _ none => none.elim

end FileSystem

open FileSystem (WorksAt)

namespace FileAction

variable {path source target : Path} {contents : ByteArray} {mode : Bool} {made : Path → Prop}

private theorem store_worksAt :
    Keeps (store path contents mode) (WorksAt made fun _ => (· = path)) := by
  constructor
  · intro before _ after h
    obtain ⟨place, found, free, rfl⟩ := store_cases h
    refine Changes.of_put ?_
    have leads : (before.put place.location (.file contents
        (Entry.modeOr mode (before.get? place.location)))).Leads path place.location :=
      .of_locate (locate_put found free)
    rcases free with vacant | ⟨old, oldMode, there⟩
    · rw [vacant] at leads ⊢
      exact .created ⟨path, rfl, leads⟩
    · rw [there] at leads ⊢
      exact .overwritten ⟨path, rfl, leads⟩
  · intro before e after h
    rw [store_error h]
    exact .refl before

private theorem setExecutable_worksAt :
    Keeps (setExecutable path mode) (WorksAt made fun _ => (· = path)) := by
  constructor
  · intro before _ after h
    rcases setExecutable_cases h with ⟨location, old, oldMode, located, there, rfl⟩ | rfl
    · have found := FileSystem.locate_eq_ok.mp located
      have free : before.Writable location := .inr ⟨old, oldMode, there⟩
      have leads : (before.put location (.file old mode)).Leads path location :=
        .of_locate (locate_put found free)
      exact Changes.of_put (there ▸ .overwritten ⟨path, rfl, leads⟩)
    · exact .refl after
  · intro before e after h
    rw [setExecutable_error h]
    exact .refl before

theorem copy_worksAt : Keeps (copy source target) (WorksAt made fun _ => (· = target)) := by
  have asked {α : Type} {query : FileSystem → Except OsError α} :
      Keeps (ask query) (WorksAt made fun _ => (· = target)) :=
    ask_keeps.mono (Effect.Same.elim .refl)
  have trans (s t u : FileSystem) (first : WorksAt made (fun _ => (· = target)) s t)
      (second : WorksAt made (fun _ => (· = target)) t u) :
      WorksAt made (fun _ => (· = target)) s u :=
    .trans (fun _ _ _ _ same => same) s t u first second
  unfold copy
  refine .bind trans asked fun entry => ?_
  refine .bind trans store_worksAt fun _ => ?_
  refine .bind trans asked fun contents => ?_
  exact .bind trans store_worksAt fun _ => setExecutable_worksAt

section Tree

variable {before after : FileSystem} {location : Location} {old : ByteArray} {oldMode : Bool}

private theorem replace_tree (tree : before.IsTree)
    (there : before.get? location = some (.file old oldMode)) :
    (before.put location (.file contents mode)).IsTree := by
  rcases location.eq_nil_or_concat with rfl | ⟨directory, name, rfl⟩
  · rw [FileSystem.get?_nil] at there
    cases there
  · rw [List.concat_eq_append] at there ⊢
    exact tree.put (tree.parent _ _ _ there) (tree.normal _ _ _ there)
      fun found => nomatch there.symm.trans found

private theorem store_tree : Keeps (store path contents mode) fun before after =>
    before.IsTree → after.IsTree := by
  constructor
  · intro before _ after h tree
    unfold store at h
    split at h
    · rename_i directory name found
      obtain ⟨-, n, -, route⟩ := FileSystem.resolve_eq_ok.mp found
      obtain ⟨here, vacant⟩ := route.get?_vacant
      have named := route.isNormal_of_vacant fun _ h => Path.isNormal_of_mem_steps h
      cases h
      exact tree.put here named fun found => nomatch vacant.symm.trans found
    · split at h <;> cases h
      rename_i there
      exact replace_tree tree there
    · cases h
  · intro before e after h tree
    rwa [store_error h]

private theorem setExecutable_tree : Keeps (setExecutable path mode) fun before after =>
    before.IsTree → after.IsTree := by
  constructor
  · intro before _ after h tree
    rcases setExecutable_cases h with ⟨location, old, oldMode, -, there, rfl⟩ | rfl
    · exact replace_tree tree there
    · exact tree
  · intro before e after h tree
    rwa [setExecutable_error h]

theorem copy_tree : Keeps (copy source target) fun before after =>
    before.IsTree → after.IsTree := by
  have trans (s t u : FileSystem) (first : s.IsTree → t.IsTree) (second : t.IsTree → u.IsTree) :
      s.IsTree → u.IsTree := second ∘ first
  have asked {α : Type} {query : FileSystem → Except OsError α} :
      Keeps (ask query) fun before after => before.IsTree → after.IsTree :=
    ask_keeps.mono (Effect.Same.elim fun _ => id)
  unfold copy
  refine .bind trans asked fun entry => .bind trans store_tree fun _ => ?_
  exact .bind trans asked fun contents => .bind trans store_tree fun _ => setExecutable_tree

end Tree

theorem copy_reads : Keeps (copy source target) fun before after =>
    after = before ∨ ∃ entry, before.status source = .ok entry := by
  constructor
  · intro before _ after h
    obtain ⟨entry, fs, asked, -⟩ := Effect.bind_eq_ok.mp h
    exact .inr ⟨entry, (ask_eq_ok.mp asked).1⟩
  · intro before e after h
    rcases Effect.bind_eq_error.mp h with asked | ⟨entry, fs, asked, -⟩
    · exact .inl (ask_eq_error.mp asked).2
    · exact .inr ⟨entry, (ask_eq_ok.mp asked).1⟩

end FileAction

namespace RenderStep

variable {path : Path}

theorem ensureDirectory_worksAt {written : FileSystem → Path → Prop} :
    Keeps (ensureDirectory path) (WorksAt (· ∈ path.ancestors) written) :=
  (ensureDirectory_along path).mono fun _ _ => FileSystem.MadeAlong.worksAt

private theorem makeParent_worksAt {written : FileSystem → Path → Prop} :
    Keeps (makeParent path) (WorksAt (· ∈ parents path) written) :=
  (makeParent_along path).mono fun _ _ => FileSystem.MadeAlong.worksAt

/-- A text is written where its path leads; directories are made on the way. -/
theorem write_worksAt (text : String) :
    Keeps (write path text).run (WorksAt (· ∈ parents path) fun _ => (· = path)) :=
  .bind (WorksAt.trans fun _ _ _ _ same => same) makeParent_worksAt fun _ =>
    .adaptExcept _ FileAction.store_worksAt

theorem run_tree (step : RenderStep) : Keeps step.run fun before after =>
    before.IsTree → after.IsTree := by
  have trans (s t u : FileSystem) (first : s.IsTree → t.IsTree) (second : t.IsTree → u.IsTree) :
      s.IsTree → u.IsTree := second ∘ first
  have parent (path : Path) : Keeps (makeParent path) fun before after =>
      before.IsTree → after.IsTree := (makeParent_along path).mono fun _ _ made => made.tree
  cases step with
  | makeDirectory path => exact (ensureDirectory_along path).mono fun _ _ made => made.tree
  | copy source target =>
    exact .bind trans (parent target) fun _ => .adaptExcept _ FileAction.copy_tree
  | write path text =>
    exact .bind trans (parent path) fun _ => .adaptExcept _ FileAction.store_tree

end RenderStep

end UiScaffold
