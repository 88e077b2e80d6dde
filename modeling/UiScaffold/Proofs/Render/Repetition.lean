import UiScaffold.Proofs.FileSystem.Repetition
import UiScaffold.Proofs.Render.Confinement

/-!
Runs that are repeated.

A run that is repeated on the files that it left finds the same template set, succeeds again with
the same summary and changes nothing: its copies and texts are written once more over each other in
the same order.
-/

set_option autoImplicit false
set_option relaxedAutoImplicit false

namespace UiScaffold

open FileSystem (Changes Follows Ready)

namespace RenderStep

variable {output path root : Path} {names names' : List String} {site : Location}
  {before made after last : FileSystem}

private theorem ensureDirectory_again (h : ensureDirectory path before = .ok () made)
    (grows : made.Grows after) : ensureDirectory path after = .ok () after :=
  Effect.adaptExcept_eq_ok.mpr
    (FileAction.makeDirectories_again (Effect.adaptExcept_eq_ok.mp h) grows)

private theorem makeParent_again (h : makeParent path before = .ok () made)
    (grows : made.Grows after) : makeParent path after = .ok () after := by
  unfold makeParent at h ⊢
  cases up : path.parent with
  | none => rfl
  | some parent =>
    rw [up] at h
    exact ensureDirectory_again h grows

variable (normal : ∀ name ∈ names, Path.isNormal name = true) (filled : names ≠ [])
include normal filled

private theorem makeParent_repeats :
    Repeats output site last id (makeParent (output.append names)) := by
  refine .making (makeParent_adds _) (fun fs fs' site_open h => ?_) fun _ _ _ => makeParent_again
  obtain ⟨changes, tree⟩ := makeParent_below site_open normal filled h
  exact ⟨changes.mono (fun _ _ between => between.1) fun _ none => none, tree⟩

private theorem makeDirectory_repeats :
    Repeats output site last id (makeDirectory (output.append names)).run := by
  refine .making (run_adds _) (fun fs fs' site_open h => ?_) fun _ _ _ => ensureDirectory_again
  have made := (ensureDirectory_along _).ok fs () fs' h
  exact ⟨(ancestors_below site_open normal filled made).mono (fun _ _ between => between.1)
    fun _ none => none, made.tree⟩

private theorem write_repeats (text : String) :
    Repeats output site last id (write (output.append names) text).run :=
  .bind (makeParent_repeats normal filled) fun _ => .adaptExcept _ (.store normal filled _)

private theorem copy_repeats (apart : Walk.Apart last root site)
    (normal' : ∀ name ∈ names', Path.isNormal name = true) :
    Repeats output site last id (copy (root.down names') (output.append names)).run :=
  .bind (makeParent_repeats normal filled) fun _ =>
    .adaptExcept _ (.copy normal filled apart normal')

end RenderStep

namespace TemplateSet

variable {before after : FileSystem} {root directory : Path} {name : String} {set : TemplateSet}
  {directories files : Location → Prop} (change : Changes directories files before after)
include change

private theorem loadFile_again {file : Path} {keys : List String} {template : Template}
    (unwritten : ∀ location, before.Leads (directory.join file) location → ¬ files location)
    (h : loadFile before directory name file keys = .ok template) :
    loadFile after directory name file keys = .ok template := by
  have same : after.status (directory.join file) = before.status (directory.join file) := by
    cases found : before.status (directory.join file) with
    | error e =>
      have missing : before.isFile (directory.join file) = false := by
        simp only [FileSystem.isFile, found]
      simp [loadFile, missing] at h
    | ok entry => exact FileSystem.status_of_changes change found unwritten
  have is_file : after.isFile (directory.join file) = before.isFile (directory.join file) := by
    rw [FileSystem.isFile, FileSystem.isFile, same]
  have text : after.readText (directory.join file) = before.readText (directory.join file) := by
    simp only [FileSystem.readText, FileSystem.readBytes, same]
  rw [← h, loadFile, loadFile, is_file, text]

private theorem load_again
    (unwritten : ∀ names location, (∀ name ∈ names, Path.isNormal name = true) →
      after.Leads (set.directory.down names) location → ¬ files location)
    (h : TemplateSet.load before root name = .ok set) :
    TemplateSet.load after root name = .ok set := by
  obtain ⟨resolved, shell, page⟩ := load_eq_ok.mp h
  obtain ⟨spelled, single, here⟩ := resolve_eq_ok.mp resolved
  have here := ((FileSystem.reaches_of_isDirectory here).of_changes change).isDirectory
  have apart (file : String) (normal : ∀ name ∈ ["pages", file], Path.isNormal name = true)
      (location : Location) (leads : before.Leads (set.directory.join ⟨["pages", file]⟩) location) :
      ¬ files location := by
    refine unwritten ["pages", file] location normal ?_
    rw [Path.down_eq_append normal (by simp)]
    exact leads.of_changes change
  exact load_eq_ok.mpr ⟨resolve_eq_ok.mpr ⟨spelled, single, here⟩,
    loadFile_again change (apart _ (by decide)) shell,
    loadFile_again change (apart _ (by decide)) page⟩

end TemplateSet

namespace Render

variable {source : RenderSource} {options : RenderOptions} {plan : RenderPlan} {site : Location}
  {last : FileSystem}

section Apart

variable (apart : Walk.Apart last plan.set.directory site)
include apart

private theorem copyAssets_repeats :
    Repeats options.output site last id (copyAssets plan.set.directory options.output) := by
  refine .bind (Walk.walkFrom_repeats apart ?_ _ _ [] (by simp)) fun _ => .pure _
  intro asset normal filled spelled
  rw [spelled]
  exact RenderStep.copy_repeats normal filled apart normal

private theorem fillOutput_repeats
    (named : plan.pages = source.forms.map fun form =>
      (form, options.output.append ["pages", "instruction", Page.fileName form.name])) :
    Repeats options.output site last Workspace.files (fillOutput source options plan) := by
  refine fillOutput_composes
    (Q := fun x => Repeats options.output site last Workspace.files x) named
    ⟨.pure, .bind, .report⟩ (.onFiles (copyAssets_repeats apart)) ?_ ?_
  · exact fun names normal filled => .onFiles (RenderStep.makeDirectory_repeats normal filled)
  · exact fun names text normal filled => .onFiles (RenderStep.write_repeats normal filled text)

end Apart

end Render

variable {source : RenderSource} {options : RenderOptions} {summary : RenderSummary}
  {before after : Workspace}

private theorem render_inv (h : render source options before = .ok summary after) :
    ∃ plan made, RenderPlan.prepare source options before.files = .ok plan ∧
      (RenderStep.makeDirectory options.output).run before.files = .ok () made.files ∧
      Render.fillOutput source options plan made = .ok summary after := by
  obtain ⟨plan, w, queried, written⟩ := Effect.bind_eq_ok.mp h
  obtain ⟨prepared, rfl⟩ := Effect.query_eq_ok.mp queried
  rw [Render.writeTree_eq] at written
  obtain ⟨⟨⟩, made, making, filled⟩ := Effect.bind_eq_ok.mp written
  exact ⟨plan, made, prepared, (Effect.onFiles_eq_ok.mp making).1, filled⟩

private theorem render_grows (h : render source options before = .ok summary after) :
    before.files.Grows after.files := by
  obtain ⟨plan, made, prepared, making, filled⟩ := render_inv h
  have named := (Render.prepare_eq_ok prepared).2.2
  exact Changes.trans ((RenderStep.run_adds _).ok _ _ _ making).grows
    ((Render.fillOutput_builds named).ok _ _ _ filled).grows

private theorem prepare_again {fs fs' : FileSystem} {plan : RenderPlan}
    (prepared : RenderPlan.prepare source options fs = .ok plan)
    (loaded : TemplateSet.load fs' options.root options.template = .ok plan.set) :
    RenderPlan.prepare source options fs' = .ok plan := by
  rw [← prepared, RenderPlan.prepare, RenderPlan.prepare, loaded,
    (Render.prepare_eq_ok prepared).1]

/-- A run that has succeeded succeeds again on the files that it left, with the same summary, and
changes nothing, when there are no links at the output directory or below it, and no path below the
template set leads into the output directory or to a directory around it. -/
theorem render_again (tree : before.files.IsTree)
    (free : ∀ site, after.files.Leads options.output site → before.files.LinkFree site)
    (apart : ∀ set site, TemplateSet.load before.files options.root options.template = .ok set →
      after.files.Leads options.output site → Walk.Apart after.files set.directory site)
    (h : render source options before = .ok summary after) (journal : List Event) :
    ∃ journal', render source options ⟨after.files, journal⟩ =
      .ok summary ⟨after.files, journal'⟩ := by
  obtain ⟨plan, made, prepared, making, filled⟩ := render_inv h
  obtain ⟨loaded, -, named⟩ := Render.prepare_eq_ok prepared
  obtain ⟨made_along, there⟩ := FileAction.makeDirectories_ok (Effect.adaptExcept_eq_ok.mp making)
  obtain ⟨site, leads⟩ := FileSystem.exists_leads there
  have grows := ((Render.fillOutput_builds named).ok _ _ _ filled).grows
  have leads' := leads.of_changes grows
  have apart := apart plan.set site loaded leads'
  have ready : Ready options.output site made.files :=
    ⟨⟨leads, (free site leads').of_changes made_along.changes⟩, made_along.tree tree⟩
  have repeats : Repeats options.output site after.files Workspace.files
      (Render.fillOutput source options plan) := Render.fillOutput_repeats apart named
  have follows := repeats.follows _ _ _ ready filled
  -- The checks and the output directory are as they were, and the writing is repeated.
  have written : Changes (fun _ => True) (site <+: ·) before.files after.files :=
    .trans (made_along.changes.mono (fun _ _ _ => trivial) fun _ none => none.elim)
      (follows.within.mono (fun _ _ _ => trivial) fun _ inside => inside)
  have prepared' := prepare_again prepared (TemplateSet.load_again written
    (fun names location normal reached => (apart names location normal reached).1) loaded)
  have making' : (RenderStep.makeDirectory options.output).run after.files =
      .ok () after.files := RenderStep.ensureDirectory_again making grows
  obtain ⟨again, filled', echoes⟩ := repeats.again _ _ _ ⟨after.files, journal⟩ ready filled
    (.refl _) (.refl _)
  have follows' : Follows site after.files again.files :=
    repeats.follows ⟨after.files, journal⟩ summary again (ready.of_follows follows) filled'
  have unchanged : again.files = after.files :=
    follows'.adds.eq_of_get? fun location => (echoes location).eq
  refine ⟨again.journal, Effect.bind_eq_ok.mpr ⟨plan, ⟨after.files, journal⟩,
    Effect.query_eq_ok.mpr ⟨prepared', rfl⟩, ?_⟩⟩
  rw [Render.writeTree_eq, ← unchanged]
  rw [← unchanged] at making' filled'
  exact Effect.bind_eq_ok.mpr ⟨(), ⟨again.files, journal⟩,
    Effect.onFiles_eq_ok.mpr ⟨making', rfl⟩, filled'⟩

theorem render_again_over_old_output :
    let before : Workspace := ⟨sampleFiles [(["w", "out", "pages"], .directory),
      (["w", "out", "pages", "_app.tsx"], .file "old".toUTF8 true),
      (["w", "templates", "mini", "logo.svg"], .file "logo".toUTF8 true),
      (["w", "templates", "mini", "pages", "_app.tsx"], .file "asset".toUTF8 false)], []⟩
    ∃ summary after journal, render sampleSource sampleOptions before = .ok summary after ∧
      render sampleSource sampleOptions after = .ok summary ⟨after.files, journal⟩ := by
  intro before
  have succeeds :
      Effect.endsWell (render sampleSource sampleOptions before) (fun _ => true) = true := by
    decide +kernel
  obtain ⟨summary, after, h, -⟩ := Effect.endsWell_iff.mp succeeds
  have grows := render_grows h
  have tree : before.files.IsTree := .of_entries (by decide)
  have no_links (location : Location) : before.files.LinkFree location :=
    sampleFiles_linkFree (by simp)
  have output : before.files.Leads sampleOptions.output ["w", "out"] := rfl
  have root : before.files.Leads ⟨["templates", "mini"]⟩ ["w", "templates", "mini"] := rfl
  have apart (set : TemplateSet) (site : Location)
      (loaded : TemplateSet.load before.files sampleOptions.root sampleOptions.template = .ok set)
      (leads : after.files.Leads sampleOptions.output site) :
      Walk.Apart after.files set.directory site := by
    obtain rfl := leads.unique (output.of_changes grows)
    have directory : set.directory = ⟨["templates", "mini"]⟩ :=
      TemplateSet.directory_of_load loaded
    rw [directory]
    exact .of_linkFree (root.of_changes grows) ((no_links _).of_changes grows) (by decide)
  obtain ⟨journal, again⟩ :=
    render_again tree (fun site _ => no_links site) apart h after.journal
  exact ⟨summary, after, journal, h, again⟩

/-- A link of the template set to the app shell in the output: a run copies the shell that the run
before it wrote. -/
theorem linked_shell_is_copied_again :
    let files := sampleFiles [(["w", "out", "pages"], .directory),
      (["w", "out", "pages", "_app.tsx"], .file "old".toUTF8 false),
      (["w", "templates", "mini", "a.txt"], .link ⟨["..", "..", "out", "pages", "_app.tsx"]⟩)]
    let source : RenderSource := { sampleSource with forms := [] }
    files.Leads sampleOptions.output ["w", "out"] ∧ files.LinkFree ["w", "out"] ∧
      files.Leads ⟨["templates", "mini"]⟩ ["w", "templates", "mini"] ∧
      ∃ summary after summary' after',
        render source sampleOptions ⟨files, []⟩ = .ok summary after ∧
        render source sampleOptions after = .ok summary' after' ∧
        after.files.readBytes ⟨["out", "a.txt"]⟩ = .ok "old".toUTF8 ∧
        after'.files.readBytes ⟨["out", "a.txt"]⟩ = .ok "\"Vault111\"".toUTF8 := by
  intro files source
  have copied : Effect.endsWell (render source sampleOptions ⟨files, []⟩) (fun after =>
      decide ((after.files.readBytes ⟨["out", "a.txt"]⟩).toOption = some "old".toUTF8) &&
        Effect.endsWell (render source sampleOptions after) fun after' =>
          decide ((after'.files.readBytes ⟨["out", "a.txt"]⟩).toOption =
            some "\"Vault111\"".toUTF8)) = true := by
    decide +kernel
  obtain ⟨summary, after, h, ended⟩ := Effect.endsWell_iff.mp copied
  obtain ⟨read, ended⟩ := Bool.and_eq_true _ _ ▸ ended
  obtain ⟨summary', after', h', read'⟩ := Effect.endsWell_iff.mp ended
  exact ⟨rfl, sampleFiles_linkFree (by simp), rfl, summary, after, summary', after', h, h',
    except_toOption_eq_some.mp (of_decide_eq_true read),
    except_toOption_eq_some.mp (of_decide_eq_true read')⟩

end UiScaffold
