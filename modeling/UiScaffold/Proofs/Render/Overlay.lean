import UiScaffold.Proofs.FileSystem.Below
import UiScaffold.Proofs.FileSystem.Growth
import UiScaffold.Proofs.FileSystem.Walk
import UiScaffold.Render.Step

/-!
What steps write below a site.

The files that steps have written one after the other lie over each other: of two with the same
names the later one is there in the end. Directories that were made stay.
-/

set_option autoImplicit false
set_option relaxedAutoImplicit false

namespace UiScaffold

open FileSystem (Changes Open Between Stores)
open PathStep (trim)

/-- Files below a site, by their names and contents; the file that was written last comes first. -/
abbrev Overlay := List (List String × ByteArray)

namespace Overlay

def Needs (directories : List (List String)) (files : Overlay) (site location : Location) : Prop :=
  ∃ names ∈ directories ++ files.map fun file => file.1.dropLast, Between site names location

def Places (files : Overlay) (site location : Location) : Prop :=
  ∃ file ∈ files, location = site ++ file.1

end Overlay

open Overlay (Needs Places)

/-- Some directories are made and some files are written below a site, and nothing else happens. -/
structure Wrote (site : Location) (directories : List (List String)) (files : Overlay)
    (before after : FileSystem) : Prop where
  changes : Changes (Needs directories files site) (files.Places site) before after
  there : ∀ location, Needs directories files site location → after.get? location = some .directory
  contents : ∀ names bytes, files.lookup names = some bytes →
    ∃ mode, after.get? (site ++ names) = some (.file bytes mode)
  tree : before.IsTree → after.IsTree

variable {before middle after fs : FileSystem} {output path : Path} {site : Location}
  {names : List String} {bytes : ByteArray} {directories directories' : List (List String)}
  {files files' : Overlay}

namespace Overlay

theorem lookup_of_unique (member : (names, bytes) ∈ files)
    (unique : ∀ other, (names, other) ∈ files → other = bytes) :
    files.lookup names = some bytes := by
  cases found : files.lookup names with
  | none => simpa using List.lookup_eq_none_iff.mp found _ member
  | some other =>
    obtain ⟨front, rest, same, -⟩ := List.lookup_eq_some_iff.mp found
    rw [unique other (same ▸ by simp)]

private theorem Needs.mono {location : Location}
    (more : ∀ names ∈ directories, names ∈ directories')
    (more' : ∀ file ∈ files, file ∈ files') (h : Needs directories files site location) :
    Needs directories' files' site location := by
  obtain ⟨names, listed, between⟩ := h
  refine ⟨names, ?_, between⟩
  rcases List.mem_append.mp listed with listed | listed
  · exact List.mem_append_left _ (more names listed)
  · obtain ⟨file, member, rfl⟩ := List.mem_map.mp listed
    exact List.mem_append_right _ (List.mem_map_of_mem (more' file member))

private theorem Places.mono {location : Location} (more : ∀ file ∈ files, file ∈ files')
    (h : files.Places site location) : files'.Places site location := by
  obtain ⟨file, listed, same⟩ := h
  exact ⟨file, more file listed, same⟩

private theorem needs_append {location : Location} :
    Needs (directories ++ directories') (files' ++ files) site location ↔
      Needs directories files site location ∨ Needs directories' files' site location := by
  constructor
  · rintro ⟨names, listed, between⟩
    simp only [List.map_append, List.mem_append] at listed
    rcases listed with (listed | listed) | (listed | listed)
    · exact .inl ⟨names, List.mem_append_left _ listed, between⟩
    · exact .inr ⟨names, List.mem_append_left _ listed, between⟩
    · exact .inr ⟨names, List.mem_append_right _ listed, between⟩
    · exact .inl ⟨names, List.mem_append_right _ listed, between⟩
  · rintro (needed | needed)
    · exact needed.mono (by simp +contextual) (by simp +contextual)
    · exact needed.mono (by simp +contextual) (by simp +contextual)

end Overlay

namespace Wrote

private theorem refl : Wrote site [] [] fs fs := by
  refine ⟨Changes.refl, ?_, ?_, id⟩
  · rintro location ⟨names, listed, -⟩
    cases listed
  · intro names bytes found
    cases found

theorem trans (first : Wrote site directories files before middle)
    (second : Wrote site directories' files' middle after) :
    Wrote site (directories ++ directories') (files' ++ files) before after := by
  refine ⟨.trans (first.changes.mono ?_ ?_) (second.changes.mono ?_ ?_), ?_, ?_,
    second.tree ∘ first.tree⟩
  · exact fun _ _ needed => Overlay.needs_append.mpr (.inl needed)
  · exact fun _ => .mono (by simp +contextual)
  · exact fun _ _ needed => Overlay.needs_append.mpr (.inr needed)
  · exact fun _ => .mono (by simp +contextual)
  · intro location needed
    rcases Overlay.needs_append.mp needed with needed | needed
    · exact second.changes.directory (first.there location needed)
    · exact second.there location needed
  · intro names bytes found
    rw [List.lookup_append] at found
    cases later : files'.lookup names with
    | some other =>
      rw [later, Option.some_or, Option.some.injEq] at found
      exact second.contents names bytes (found ▸ later)
    | none =>
      rw [later, Option.none_or] at found
      obtain ⟨mode, found⟩ := first.contents names bytes found
      refine ⟨mode, second.changes.kept ?_ found⟩
      rintro ⟨file, listed, same⟩
      have differs := List.lookup_eq_none_iff.mp later file listed
      rw [List.append_cancel_left same, bne_self_eq_false] at differs
      cases differs

theorem within (wrote : Wrote site directories files before after) : before.Within site after := by
  refine wrote.changes.mono ?_ ?_
  · rintro location - ⟨names, -, between⟩
    exact between.1
  · rintro location ⟨file, -, rfl⟩
    exact List.prefix_append _ _

/-- Steps that write one file each write them all. -/
theorem forM {ε α : Type} {items : List α} {step : α → EStateM ε FileSystem Unit}
    {P : α → ByteArray → Prop} (last : FileSystem) (names : α → List String)
    (each : ∀ a ∈ items, ∀ before after, before.Open output site → step a before = .ok () after →
      ∃ bytes, Wrote site [] [(names a, bytes)] before after ∧ (after.Within site last → P a bytes))
    (site_open : before.Open output site) (h : items.forM step before = .ok () after) :
    ∃ files, Wrote site [] files before after ∧ (after.Within site last →
      (∀ a ∈ items, ∃ bytes, (names a, bytes) ∈ files ∧ P a bytes) ∧
      ∀ file ∈ files, ∃ a ∈ items, file.1 = names a ∧ P a file.2) := by
  induction items generalizing before with
  | nil =>
    cases h
    exact ⟨[], refl, by simp⟩
  | cons a rest ih =>
    obtain ⟨⟨⟩, middle, first, more⟩ := Effect.bind_eq_ok.mp h
    obtain ⟨bytes, wrote, holds⟩ := each a List.mem_cons_self _ _ site_open first
    obtain ⟨files, wrote', lists⟩ := ih (fun b hb => each b (List.mem_cons_of_mem a hb))
      (site_open.of_changes wrote.changes) more
    refine ⟨files ++ [(names a, bytes)], wrote.trans wrote', fun later => ?_⟩
    have holds := holds (wrote'.within.trans later)
    obtain ⟨all, only⟩ := lists later
    refine ⟨fun b hb => ?_, fun file listed => ?_⟩
    · rcases List.mem_cons.mp hb with rfl | hb
      · exact ⟨bytes, by simp, holds⟩
      · obtain ⟨other, listed, holds'⟩ := all b hb
        exact ⟨other, List.mem_append_left _ listed, holds'⟩
    · rcases List.mem_append.mp listed with listed | listed
      · obtain ⟨b, hb, same, holds'⟩ := only file listed
        exact ⟨b, List.mem_cons_of_mem a hb, same, holds'⟩
      · obtain rfl := List.mem_singleton.mp listed
        exact ⟨a, List.mem_cons_self, rfl, holds⟩

end Wrote

namespace RenderStep

theorem makeParent_adds (path : Path) : Effect.Keeps (makeParent path) FileSystem.Adds := by
  unfold makeParent
  cases path.parent with
  | none => exact .pure FileSystem.Adds.refl _
  | some parent => exact .adaptExcept _ FileAction.makeDirectories_adds

theorem run_adds (step : RenderStep) : Effect.Keeps step.run FileSystem.Adds := by
  cases step with
  | makeDirectory path => exact .adaptExcept _ FileAction.makeDirectories_adds
  | copy source target =>
    exact .bind FileSystem.Adds.trans (makeParent_adds target) fun _ =>
      .adaptExcept _ FileAction.copy_adds
  | write path text =>
    exact .bind FileSystem.Adds.trans (makeParent_adds path) fun _ =>
      .adaptExcept _ FileAction.store_adds

/-- The paths along which the directory of a file is made. -/
def parents (path : Path) : List Path := (path.parent.map Path.ancestors).getD []

theorem ensureDirectory_along (path : Path) :
    Effect.Keeps (ensureDirectory path) (FileSystem.MadeAlong path.ancestors) :=
  .adaptExcept _ ⟨fun _ _ _ h => (FileAction.makeDirectories_ok h).1,
    fun _ _ _ h => FileAction.makeDirectories_error h⟩

theorem makeParent_along (path : Path) :
    Effect.Keeps (makeParent path) (FileSystem.MadeAlong (parents path)) := by
  unfold makeParent parents
  cases path.parent with
  | none => exact .pure (fun _ => .refl) _
  | some parent => exact ensureDirectory_along parent

variable (site_open : before.Open output site)
  (normal : ∀ name ∈ names, Path.isNormal name = true) (filled : names ≠ [])
include site_open normal filled

theorem parents_below (made : before.MadeAlong (parents (output.append names)) after) :
    Changes (Between site names.dropLast) (fun _ => False) before after := by
  unfold parents at made
  cases up : (output.append names).parent with
  | none =>
    rw [up] at made
    exact made.changes.mono (fun _ _ ⟨_, listed, _⟩ => by cases listed) fun _ none => none
  | some parent =>
    rw [up] at made
    obtain ⟨abs, way⟩ := Path.of_parent_eq_some up
    rw [Path.append_way normal filled, List.dropLast_append_of_ne_nil (by simpa using filled),
      ← List.map_dropLast] at way
    exact FileSystem.MadeAlong.below site_open made
      (abs.trans (Path.append_steps normal filled).1) way

theorem ancestors_below (made : before.MadeAlong (output.append names).ancestors after) :
    Changes (Between site names) (fun _ => False) before after := by
  have steps : _ ∧ (output.append names).steps = _ := Path.append_steps normal filled
  exact made.below site_open steps.1 (by rw [Path.way, steps.2])

theorem makeParent_below (h : makeParent (output.append names) before = .ok () after) :
    Changes (Between site names.dropLast) (fun _ => False) before after ∧
      (before.IsTree → after.IsTree) := by
  have made := (makeParent_along _).ok _ _ _ h
  exact ⟨parents_below site_open normal filled made, made.tree⟩

theorem makeDirectory_below (h : (makeDirectory (output.append names)).run before = .ok () after) :
    Wrote site [names] [] before after := by
  have way : (output.append names).way = _ := Path.append_way normal filled
  have not_empty : (output.append names).isEmpty ≠ true := by
    intro empty
    rw [(Path.of_isEmpty empty).2] at way
    simp [filled] at way
  obtain ⟨made, there⟩ := FileAction.makeDirectories_ok (Effect.adaptExcept_eq_ok.mp h)
  have changes := ancestors_below site_open normal filled made
  obtain ⟨location, leads, here⟩ := there.resolve_left not_empty
  have site_open' := site_open.of_changes changes
  obtain ⟨rfl, dirs⟩ := FileSystem.leads_below normal filled site_open'.leads site_open'.free leads
  refine ⟨changes.mono ?_ (by simp), ?_, by simp, made.tree⟩
  · intro location _ between
    exact ⟨names, List.mem_singleton_self _, between⟩
  · rintro location ⟨other, listed, ⟨front, rfl⟩, short⟩
    obtain rfl := List.mem_singleton.mp listed
    rw [List.prefix_append_right_inj] at short
    by_cases whole : front = other
    · exact whole ▸ here
    · exact dirs front short whole

omit site_open normal in
private theorem wrote_file
    (parent : Changes (Between site names.dropLast) (fun _ => False) before middle ∧
      (before.IsTree → middle.IsTree))
    (stored : Stores (site ++ names) bytes middle after)
    (dirs : ∀ front, front <+: names → front ≠ names →
      middle.get? (site ++ front) = some .directory) :
    Wrote site [] [(names, bytes)] before after := by
  refine ⟨.trans (parent.1.mono ?_ ?_) (stored.changes.mono ?_ ?_), ?_, ?_, stored.tree ∘ parent.2⟩
  · exact fun _ _ between => ⟨_, List.mem_singleton_self _, between⟩
  · exact fun _ none => none.elim
  · exact fun _ _ none => none.elim
  · exact fun _ same => ⟨_, List.mem_singleton_self _, same⟩
  · rintro location ⟨other, listed, ⟨front, rfl⟩, short⟩
    obtain rfl := List.mem_singleton.mp listed
    rw [List.prefix_append_right_inj] at short
    have shorter : front.length ≤ names.length - 1 := List.length_dropLast ▸ short.length_le
    have positive := List.length_pos_iff.mpr filled
    refine stored.changes.directory (dirs front (short.trans (List.dropLast_prefix names)) ?_)
    rintro rfl
    omega
  · intro other contents found
    obtain ⟨rfl, rfl⟩ : other = names ∧ bytes = contents := by
      by_cases same : other = names
      · subst same
        simpa using found
      · simp [List.lookup_cons, beq_eq_false_iff_ne.mpr same] at found
    exact stored.contents

theorem write_below {text : String}
    (h : (write (output.append names) text).run before = .ok () after) :
    Wrote site [] [(names, text.toUTF8)] before after := by
  obtain ⟨⟨⟩, middle, parent, h⟩ := Effect.bind_eq_ok.mp h
  have parent := makeParent_below site_open normal filled parent
  obtain ⟨stored, dirs⟩ := FileAction.store_below (site_open.of_changes parent.1) normal filled
    (Effect.adaptExcept_eq_ok.mp h)
  exact wrote_file filled parent stored dirs

/-- A copy has the contents of its source, which does not change unless it lies below the site. -/
theorem copy_below {source : Path}
    (h : (copy source (output.append names)).run before = .ok () after) :
    ∃ bytes location, Wrote site [] [(names, bytes)] before after ∧
      after.Leads source location ∧ source.refusal? = none ∧
      (¬ site <+: location → ∃ mode, before.get? location = some (.file bytes mode)) := by
  obtain ⟨⟨⟩, middle, parent, h⟩ := Effect.bind_eq_ok.mp h
  have parent := makeParent_below site_open normal filled parent
  obtain ⟨bytes, location, stored, dirs, located, kept⟩ := FileAction.copy_below
    (site_open.of_changes parent.1) normal filled (Effect.adaptExcept_eq_ok.mp h)
  have leads := (FileSystem.Leads.of_locate located).of_changes stored.changes
  have accepted := (FileSystem.resolve_eq_ok.mp (FileSystem.locate_eq_ok.mp located)).1
  refine ⟨bytes, location, wrote_file filled parent stored dirs, leads, accepted, fun outside => ?_⟩
  have away : location ≠ site ++ names := fun same => outside (same ▸ List.prefix_append _ _)
  obtain ⟨mode, there⟩ := kept away
  exact ⟨mode, parent.1.unchanged (fun between => outside between.1) id ▸ there⟩

end RenderStep

end UiScaffold
