import UiScaffold.Proofs.Except
import UiScaffold.Proofs.FileSystem.Tour
import UiScaffold.Proofs.Render.Confinement

/-!
What a run leaves behind that breaks off.

A run has a plan, which is known when its output directory is there: the directory, a copy for each
asset in the order of a walk, the app shell, the directory of the pages, the pages in the order of
their forms, and the record. A run succeeds when all of its tasks do. If not, it ends with the error
of the first task that fails; those before it were done, and those after it were not begun.
-/

set_option autoImplicit false
set_option relaxedAutoImplicit false

namespace UiScaffold

open FileSystem (Changes Open)
open Effect (Alike)

namespace RenderStep

/-- Where a step makes directories: at a path or at the place of its file, and on the way there. -/
def along : RenderStep → List Path
  | makeDirectory path => path.ancestors
  | copy _ path => parents path
  | write path _ => parents path

variable {before after : FileSystem} {e : RenderError}

/-- A step that is refused has made some directories at most. A copy needs a source that is still a
file after the copy was emptied. -/
private theorem run_error {step : RenderStep} (h : step.run before = .error e after)
    (lasts : ∀ source target, step = copy source target → ∀ entry fs emptied mode,
      makeParent target before = .ok () fs → fs.status source = .ok entry →
      FileAction.store target ByteArray.empty mode fs = .ok () emptied →
      ∃ bytes mode', emptied.status source = .ok (.file bytes mode')) :
    before.MadeAlong step.along after := by
  cases step with
  | makeDirectory path => exact (ensureDirectory_along path).error _ _ _ h
  | copy source target =>
    rcases Effect.bind_eq_error.mp h with h | ⟨⟨⟩, fs, parent, h⟩
    · exact (makeParent_along target).error _ _ _ h
    · obtain ⟨cause, h, -⟩ := Effect.adaptExcept_eq_error.mp h
      rw [FileAction.copy_error h fun entry emptied mode =>
        lasts source target rfl entry fs emptied mode parent]
      exact (makeParent_along target).ok _ _ _ parent
  | write path text =>
    rcases Effect.bind_eq_error.mp h with h | ⟨⟨⟩, fs, parent, h⟩
    · exact (makeParent_along path).error _ _ _ h
    · obtain ⟨cause, h, -⟩ := Effect.adaptExcept_eq_error.mp h
      rw [FileAction.store_error h]
      exact (makeParent_along path).ok _ _ _ parent

end RenderStep

namespace Render

/-- A task of a run: a step, or a place where the walk through the assets is refused. -/
inductive Task where
  | step (step : RenderStep)
  | refusal (error : RenderError)

namespace Task

def run : Task → EStateM RenderError FileSystem Unit
  | .step taken => taken.run
  | .refusal e => throw e

/-- Where a task makes directories. -/
def along : Task → List Path
  | .step taken => taken.along
  | .refusal _ => []

def ofStop (directory output : Path) : Walk.Stop → Task
  | .ok asset => .step (.copy asset.path (output.append asset.relative))
  | .error cause => .refusal (.brokenTree directory cause)

end Task

def recording (source : RenderSource) (options : RenderOptions) : Task :=
  .step (.write (GenerationRecord.place options.output) (options.record source).write)

/-- The tasks of a run between the making of the output directory and the record; `made` are the
files as they are when the output directory is there. -/
def tasksIn (source : RenderSource) (options : RenderOptions) (plan : RenderPlan)
    (made : FileSystem) : List Task :=
  let context := options.context source
  (Walk.tour made TemplateSet.isAsset plan.set.directory).map
      (.ofStop plan.set.directory options.output) ++
    .step (.write options.shellPath (plan.set.shell.render context)) ::
    .step (.makeDirectory options.pagesPath) ::
    plan.pages.map fun page =>
      .step (.write page.2 (plan.set.page.render (context.withForm page.1)))

/-- The tasks of a run in their order. -/
def tasks (source : RenderSource) (options : RenderOptions) (plan : RenderPlan)
    (before : FileSystem) : List Task :=
  let making := RenderStep.makeDirectory options.output
  .step making :: (tasksIn source options plan (Effect.final (making.run before)) ++
    [recording source options])

/-- Tasks that were broken off: those before one were done, and that one was refused when it had
made some directories at most. -/
def BrokenOff (tasks : List Task) (before : FileSystem) (e : RenderError) (after : FileSystem) :
    Prop :=
  ∃ done task rest middle, tasks = done ++ task :: rest ∧
    done.forM Task.run before = .ok () middle ∧ task.run middle = .error e after ∧
    middle.MadeAlong task.along after

private theorem BrokenOff.grows {tasks : List Task} {before after : FileSystem} {e : RenderError}
    (h : BrokenOff tasks before e after) : before.Grows after := by
  obtain ⟨done, task, rest, middle, -, first, -, along⟩ := h
  have adds (task : Task) : Effect.Keeps task.run FileSystem.Adds := by
    cases task with
    | step taken => exact RenderStep.run_adds taken
    | refusal e => exact .throw FileSystem.Adds.refl e
  have grows := ((Effect.Keeps.forM FileSystem.Adds.refl FileSystem.Adds.trans done
    fun task _ => adds task).ok _ _ _
    first).grows
  exact Changes.trans grows (FileSystem.Grows.of_changes along.changes)

/-- There are no links in the output directory, and no path below the set leads into it, to a
directory around it, or to something missing in it. This is judged when the output directory is
there. -/
def Separate (options : RenderOptions) (set : TemplateSet) (before : FileSystem) : Prop :=
  ∀ made site, (RenderStep.makeDirectory options.output).run before = .ok () made →
    made.Leads options.output site → before.LinkFree site ∧ Walk.Clear made set.directory site

variable {source : RenderSource} {options : RenderOptions} {plan : RenderPlan}
  {before after : FileSystem} {made : FileSystem} {site : Location}

private theorem writeTree_alike {w : Workspace}
    (walks : ∀ made, (RenderStep.makeDirectory options.output).run w.files = .ok () made →
      Alike id (copyAssets plan.set.directory options.output made)
        ((Walk.tour made TemplateSet.isAsset plan.set.directory).forM (Walk.stop
          (.brokenTree plan.set.directory) fun asset =>
            (RenderStep.copy asset.path (options.output.append asset.relative)).run) made)) :
    Alike Workspace.files (writeTree source options plan w)
      ((tasks source options plan w.files).forM Task.run w.files) := by
  unfold writeTree tasks
  refine .bind (y := (RenderStep.makeDirectory options.output).run) (.onFiles .refl)
    fun _ w₁ _ _ making => ?_
  rw [making, Effect.final, tasksIn, List.append_assoc, Effect.forM_append, List.cons_append,
    List.cons_append]
  have stops : (fun stop => (Task.ofStop plan.set.directory options.output stop).run) =
      Walk.stop (.brokenTree plan.set.directory) fun asset =>
        (RenderStep.copy asset.path (options.output.append asset.relative)).run := by
    funext stop
    cases stop <;> rfl
  refine .bind (.onFiles ?_) fun copied w₂ _ _ _ => .report ?_
  · rw [Effect.forM_map, stops]
    exact walks w₁.files making
  refine .bind (y := (RenderStep.write _ _).run) (.onFiles .refl) fun _ w₃ _ _ _ => .report ?_
  refine .bind (y := (RenderStep.makeDirectory _).run) (.onFiles .refl) fun _ w₄ _ _ _ => ?_
  rw [Effect.forM_append]
  refine .bind ?_ fun _ w₅ _ _ _ => .report ?_
  · rw [Effect.forM_map]
    exact .forM fun page _ w => .reported (.onFiles .refl)
  refine .bind (y := (RenderStep.write _ _).run) (.onFiles (.map .refl)) fun _ w₆ _ _ _ => ?_
  exact .report .ok

/-- What the tasks of a run keep, once the output directory was made. -/
private structure Kept (output : Path) (site : Location) (made fs : FileSystem) : Prop where
  adds : made.Adds fs
  within : made.Within site fs
  site_open : fs.Open output site
  tree : fs.IsTree

/-- A task that works below the output directory, with the names of the files that it writes; `made`
are the files when the output directory is there. -/
private inductive Below (made : FileSystem) (set : TemplateSet) (output : Path) :
    Task → List (List String) → Prop
  | refusal {e : RenderError} : Below made set output (.refusal e) []
  | directory {names : List String} : (∀ name ∈ names, Path.isNormal name = true) → names ≠ [] →
      Below made set output (.step (.makeDirectory (output.append names))) []
  | copy {asset : Asset} : Walk.Toured made set.directory TemplateSet.isAsset asset →
      Below made set output (.step (.copy asset.path (output.append asset.relative)))
        [asset.relative]
  | write {names : List String} {text : String} : (∀ name ∈ names, Path.isNormal name = true) →
      names ≠ [] → Below made set output (.step (.write (output.append names) text)) [names]

private theorem Kept.of_wrote {output : Path} {directories : List (List String)} {files : Overlay}
    (kept : Kept output site made before) (adds : before.Adds after)
    (wrote : Wrote site directories files before after) : Kept output site made after :=
  ⟨kept.adds.trans _ _ _ adds, kept.within.trans wrote.within,
    kept.site_open.of_changes wrote.changes, wrote.tree kept.tree⟩

private theorem copies_visit (output : Path) : Walk.Visits site
    (fun asset => (RenderStep.copy asset.path (output.append asset.relative)).run)
    (Kept output site made) := by
  refine ⟨fun fs kept => kept.tree, fun asset before after normal filled kept h => ?_⟩
  obtain ⟨bytes, location, wrote, -⟩ := RenderStep.copy_below kept.site_open normal filled h
  exact ⟨kept.of_wrote ((RenderStep.run_adds _).ok _ _ _ h) wrote, wrote.within⟩

section Below

variable {set : TemplateSet} {output : Path} {task : Task} {places : List (List String)}
  (below : Below made set output task places) (kept : Kept output site made before)
include below kept

private theorem Below.done (h : task.run before = .ok () after) :
    Kept output site made after ∧ Changes (fun _ => True)
      (fun location => ∃ names ∈ places, location = site ++ names) before after := by
  obtain ⟨directories, files, wrote, rfl⟩ : ∃ directories files,
      Wrote site directories files before after ∧ files.map Prod.fst = places := by
    cases below with
    | refusal => cases h
    | directory normal filled =>
      exact ⟨_, _, RenderStep.makeDirectory_below kept.site_open normal filled h, rfl⟩
    | copy toured =>
      obtain ⟨bytes, location, wrote, -⟩ :=
        RenderStep.copy_below kept.site_open toured.normal toured.filled h
      exact ⟨_, _, wrote, rfl⟩
    | write normal filled =>
      exact ⟨_, _, RenderStep.write_below kept.site_open normal filled h, rfl⟩
  have adds : before.Adds after := by
    cases task with
    | step taken => exact (RenderStep.run_adds taken).ok _ _ _ h
    | refusal e => cases h
  refine ⟨kept.of_wrote adds wrote, wrote.changes.mono (fun _ _ _ => trivial) ?_⟩
  rintro location ⟨file, listed, same⟩
  exact ⟨file.1, List.mem_map_of_mem listed, same⟩

/-- A task that is refused has made some directories at most: a copy is refused before it writes
anything, since its source stays the file that the walk came to. -/
private theorem Below.refused {e : RenderError} (clear : Walk.Clear made set.directory site)
    (h : task.run before = .error e after) : before.MadeAlong task.along after := by
  cases below with
  | refusal =>
    cases h
    exact .refl
  | @directory names normal filled =>
    have h : (RenderStep.makeDirectory (output.append names)).run before = .error e after := h
    exact RenderStep.run_error h fun _ _ same => by cases same
  | @write names text normal filled =>
    have h : (RenderStep.write (output.append names) text).run before = .error e after := h
    exact RenderStep.run_error h fun _ _ same => by cases same
  | @copy asset toured =>
    have h : (RenderStep.copy asset.path (output.append asset.relative)).run before =
      .error e after := h
    refine RenderStep.run_error h ?_
    rintro source target same entry fs emptied mode parent found stored
    cases same
    have opened := (RenderStep.makeParent_below kept.site_open toured.normal toured.filled parent).1
    have stores := (FileAction.store_below (kept.site_open.of_changes opened) toured.normal
      toured.filled stored).1
    have within : made.Within site fs :=
      kept.within.trans (opened.mono (fun _ _ between => between.1) fun _ none => none.elim)
    have within' : made.Within site emptied := by
      refine within.trans (stores.changes.mono (fun _ _ none => none.elim) ?_)
      rintro location rfl
      exact List.prefix_append _ _
    rw [toured.spelled, clear.status_eq within toured.normal] at found
    obtain ⟨contents, mode', rfl⟩ := toured.file entry (toured.spelled ▸ found)
    rw [toured.spelled, clear.status_eq within' toured.normal]
    exact ⟨contents, mode', found⟩

end Below

private theorem hasAsset_of_copy {set : TemplateSet} {output : Path} {asset : Asset}
    (clear : Walk.Clear made set.directory site) (kept : Kept output site made before)
    (toured : Walk.Toured made set.directory TemplateSet.isAsset asset)
    (h : (RenderStep.copy asset.path (output.append asset.relative)).run before = .ok () after) :
    ∃ bytes, set.HasAsset made asset.relative bytes := by
  obtain ⟨⟨⟩, fs, parent, h⟩ := Effect.bind_eq_ok.mp h
  have opened := (RenderStep.makeParent_below kept.site_open toured.normal toured.filled parent).1
  have within : made.Within site fs :=
    kept.within.trans (opened.mono (fun _ _ between => between.1) fun _ none => none.elim)
  obtain ⟨entry, fs', asked, -⟩ := Effect.bind_eq_ok.mp (Effect.adaptExcept_eq_ok.mp h)
  obtain ⟨found, -⟩ := FileAction.ask_eq_ok.mp asked
  rw [toured.spelled, clear.status_eq within toured.normal] at found
  obtain ⟨contents, mode, rfl⟩ := toured.file entry (toured.spelled ▸ found)
  exact ⟨contents, toured.normal, toured.filled, toured.spelled ▸ toured.wanted,
    FileSystem.readBytes_eq_ok.mpr ⟨mode, found⟩⟩

abbrev recordNames : List String := [".castui", "metadata.json"]

section Tasks

variable {task : Task} {done : List Task} {middle : FileSystem} {e : RenderError}
  (named : plan.pages = source.forms.map fun form =>
    (form, options.output.append ["pages", "instruction", Page.fileName form.name]))

include named in
/-- Before the record, a run works below the output directory, and only copies can write where the
record will be. -/
private theorem below_of_mem (tree : made.IsTree)
    (listed : task ∈ tasksIn source options plan made) :
    ∃ places, Below made plan.set options.output task places ∧ (recordNames ∈ places →
      ∃ asset, Walk.Toured made plan.set.directory TemplateSet.isAsset asset ∧
        asset.relative = recordNames ∧
        task = .step (.copy asset.path (options.output.append asset.relative))) := by
  simp only [tasksIn, List.mem_append, List.mem_cons, List.mem_map] at listed
  rcases listed with ⟨stop, toured, rfl⟩ | rfl | rfl | ⟨page, listed, rfl⟩
  · cases stop with
    | error cause => exact ⟨[], .refusal, by simp⟩
    | ok asset =>
      have found := Walk.mem_tour tree toured
      exact ⟨[asset.relative], .copy found, fun same =>
        ⟨asset, found, (List.mem_singleton.mp same).symm, rfl⟩⟩
  · exact ⟨[["pages", "_app.tsx"]], .write (by decide) (by simp), by simp [recordNames]⟩
  · exact ⟨[], .directory (by decide) (by simp), by simp⟩
  · rw [named] at listed
    obtain ⟨form, -, rfl⟩ := List.mem_map.mp listed
    exact ⟨[["pages", "instruction", Page.fileName form.name]],
      .write (page_normal form.name) (by simp), by simp [recordNames]⟩

variable (tree : made.IsTree) (start : Kept options.output site made made)
  (listed : ∀ task ∈ done, task ∈ tasksIn source options plan made)
  (h : done.forM Task.run made = .ok () middle)
include named tree start listed h

private theorem tasks_keep : Kept options.output site made middle := by
  refine Effect.forM_invariant (fun task member s t kept h => ?_) h start
  obtain ⟨places, below, -⟩ := below_of_mem named tree (listed task member)
  exact (below.done kept h).1

private theorem tasks_spare_record (clear : Walk.Clear made plan.set.directory site)
    (free : ∀ bytes, ¬ plan.set.HasAsset made recordNames bytes) :
    Changes (fun _ => True) (· ≠ site ++ recordNames) made middle := by
  refine (Effect.forM_invariant (I := fun fs => Kept options.output site made fs ∧
    Changes (fun _ => True) (· ≠ site ++ recordNames) made fs) (fun task member s t kept h => ?_) h
    ⟨start, Changes.refl⟩).2
  obtain ⟨places, below, copied⟩ := below_of_mem named tree (listed task member)
  obtain ⟨kept', changes⟩ := below.done kept.1 h
  refine ⟨kept', kept.2.trans (changes.mono (fun _ _ _ => trivial) ?_)⟩
  rintro location ⟨names, written, rfl⟩ same
  obtain rfl := List.append_cancel_left same
  obtain ⟨asset, toured, place, rfl⟩ := copied written
  obtain ⟨bytes, shipped⟩ := hasAsset_of_copy clear kept.1 toured h
  exact free bytes (place ▸ shipped)

end Tasks

private theorem mem_of_split {α : Type} {items done rest : List α} {item last : α}
    (h : items ++ [last] = done ++ item :: rest) :
    (∀ a ∈ done, a ∈ items) ∧ (item ∈ items ∨ item = last) := by
  rcases rest.eq_nil_or_concat with rfl | ⟨rest, other, rfl⟩
  · obtain ⟨rfl, same⟩ := List.append_inj' h rfl
    exact ⟨fun a listed => listed, .inr (List.singleton_inj.mp same).symm⟩
  · rw [List.concat_eq_append, ← List.cons_append, ← List.append_assoc] at h
    obtain ⟨rfl, -⟩ := List.append_inj' h rfl
    exact ⟨fun a listed => List.mem_append_left _ listed, .inl (by simp)⟩

section Run

variable {e : RenderError} (tree : before.IsTree) (separate : Separate options plan.set before)
include tree separate

private theorem kept_of_making
    (making : (RenderStep.makeDirectory options.output).run before = .ok () made) :
    ∃ site, Kept options.output site made made ∧ Walk.Clear made plan.set.directory site ∧
      Changes (fun _ => True) (fun _ => False) before made := by
  obtain ⟨made_along, there⟩ := FileAction.makeDirectories_ok (Effect.adaptExcept_eq_ok.mp making)
  obtain ⟨site, leads⟩ := FileSystem.exists_leads there
  obtain ⟨free, clear⟩ := separate made site making leads
  exact ⟨site, ⟨.nothing, Changes.refl, ⟨leads, free.of_changes made_along.changes⟩,
    made_along.tree tree⟩, clear, made_along.changes.mono (fun _ _ _ => trivial) fun _ none => none⟩

private theorem copyAssets_alike
    (making : (RenderStep.makeDirectory options.output).run before = .ok () made) :
    Alike id (copyAssets plan.set.directory options.output made)
      ((Walk.tour made TemplateSet.isAsset plan.set.directory).forM (Walk.stop
        (.brokenTree plan.set.directory) fun asset =>
          (RenderStep.copy asset.path (options.output.append asset.relative)).run) made) := by
  obtain ⟨site, kept, clear, -⟩ := kept_of_making tree separate making
  exact .map (Walk.walk_tour (copies_visit options.output) clear
    (fun fs kept => ⟨kept.adds, kept.within⟩) kept.tree kept)

/-- A run whose tasks fail was broken off, and left the old record alone if no asset took its
place. -/
private theorem brokenOff_of_error
    (named : plan.pages = source.forms.map fun form =>
      (form, options.output.append ["pages", "instruction", Page.fileName form.name]))
    (h : (tasks source options plan before).forM Task.run before = .error e after) :
    BrokenOff (tasks source options plan before) before e after ∧
      ((∀ made bytes, (RenderStep.makeDirectory options.output).run before = .ok () made →
          ¬ plan.set.HasAsset made recordNames bytes) →
        ∀ site, after.Leads options.output site →
          Changes (fun _ => True) (· ≠ site ++ recordNames) before after) := by
  obtain ⟨done, task, rest, middle, split, first, refused⟩ := Effect.forM_eq_error.mp h
  cases done with
  | nil =>
    obtain ⟨rfl, -⟩ := List.cons.inj split
    cases first
    have making : (RenderStep.makeDirectory options.output).run before = .error e after := refused
    have along := RenderStep.run_error making fun _ _ same => by cases same
    refine ⟨⟨[], _, rest, before, split, rfl, refused, along⟩, fun _ site _ => ?_⟩
    exact along.changes.mono (fun _ _ _ => trivial) fun _ none => none.elim
  | cons making done =>
    obtain ⟨rfl, later⟩ := List.cons.inj split
    obtain ⟨⟨⟩, made, making, first'⟩ := Effect.bind_eq_ok.mp first
    have making : (RenderStep.makeDirectory options.output).run before = .ok () made := making
    obtain ⟨site, start, clear, opened⟩ := kept_of_making tree separate making
    rw [making, Effect.final] at later
    -- The record is last, so what was done before a refusal stands ahead of it.
    obtain ⟨listed, member⟩ : (∀ task ∈ done, task ∈ tasksIn source options plan made) ∧
        (task ∈ tasksIn source options plan made ∨ task = recording source options) :=
      mem_of_split later
    have kept := tasks_keep named start.tree start listed first'
    have along : middle.MadeAlong task.along after := by
      rcases member with member | rfl
      · obtain ⟨places, below, -⟩ := below_of_mem named start.tree member
        exact below.refused kept clear refused
      · have writing : (RenderStep.write _ _).run middle = .error e after := refused
        exact RenderStep.run_error writing fun _ _ same => by cases same
    refine ⟨⟨_, task, rest, middle, split, first, refused, along⟩, fun free site' leads => ?_⟩
    have spared := tasks_spare_record named start.tree start listed first' clear fun bytes =>
      free made bytes making
    obtain rfl := leads.unique (kept.site_open.leads.of_changes along.changes)
    refine .trans (opened.mono (fun _ _ _ => trivial) fun _ none => none.elim) (spared.trans ?_)
    exact along.changes.mono (fun _ _ _ => trivial) fun _ none => none.elim

end Run

end Render

variable {source : RenderSource} {options : RenderOptions} {plan : RenderPlan}
  {before : Workspace}

/-- A run that passed its checks succeeds when all of its tasks do. Otherwise it ends with the error
of the first task that fails, with the tasks before it done and those after it not begun; and the
old record stays as it is, unless an asset took its place. -/
theorem render_breaks_off (tree : before.files.IsTree)
    (prepared : RenderPlan.prepare source options before.files = .ok plan)
    (separate : Render.Separate options plan.set before.files) :
    ((∃ summary after, render source options before = .ok summary after) ↔
      ∃ files, (Render.tasks source options plan before.files).forM Render.Task.run before.files =
        .ok () files) ∧
    (∀ summary after, render source options before = .ok summary after →
      (Render.tasks source options plan before.files).forM Render.Task.run before.files =
        .ok () after.files) ∧
    ∀ e after, render source options before = .error e after →
      Render.BrokenOff (Render.tasks source options plan before.files) before.files e after.files ∧
      ((∀ made bytes, (RenderStep.makeDirectory options.output).run before.files = .ok () made →
          ¬ plan.set.HasAsset made Render.recordNames bytes) →
        ∀ site, after.files.Leads options.output site →
          after.files.get? (site ++ Render.recordNames) =
              before.files.get? (site ++ Render.recordNames) ∨
            before.files.get? (site ++ Render.recordNames) = none ∧
              after.files.get? (site ++ Render.recordNames) = some .directory) := by
  obtain ⟨-, -, named⟩ := Render.prepare_eq_ok prepared
  have alike : Alike Workspace.files (render source options before) _ :=
    render_of_prepared prepared ▸
      Render.writeTree_alike fun made making => Render.copyAssets_alike tree separate making
  generalize told : (Render.tasks source options plan before.files).forM Render.Task.run
    before.files = result at alike
  generalize render source options before = ended at alike
  cases alike with
  | ok => simp
  | error =>
    obtain ⟨broken, spared⟩ := Render.brokenOff_of_error tree separate named told
    refine ⟨by simp, by simp, ?_⟩
    rintro e after same
    cases same
    refine ⟨broken, fun free site leads => ?_⟩
    exact (spared free site leads).unwritten (by simp)

/-- A workspace where a directory stands in the place of the app shell, and there is an old
record. -/
def blockedFiles : FileSystem :=
  sampleFiles [(["w", "out", "pages"], .directory), (["w", "out", "pages", "_app.tsx"], .directory),
    (["w", "out", ".castui"], .directory),
    (["w", "out", ".castui", "metadata.json"], .file "old".toUTF8 false)]

theorem render_breaks_off_at_shell :
    ∃ plan e after, RenderPlan.prepare sampleSource sampleOptions blockedFiles = .ok plan ∧
      render sampleSource sampleOptions ⟨blockedFiles, []⟩ = .error e after ∧
      Render.BrokenOff (Render.tasks sampleSource sampleOptions plan blockedFiles) blockedFiles e
        after.files ∧
      after.files.get? ["w", "out", ".castui", "metadata.json"] =
        some (.file "old".toUTF8 false) := by
  have fails : Effect.endsBadly (render sampleSource sampleOptions ⟨blockedFiles, []⟩)
      (fun _ _ => true) = true := by
    decide +kernel
  obtain ⟨e, after, h, -⟩ := Effect.endsBadly_iff.mp fails
  have checked : (RenderPlan.prepare sampleSource sampleOptions blockedFiles).toBool = true := by
    decide +kernel
  cases prepared : RenderPlan.prepare sampleSource sampleOptions blockedFiles with
  | error e => simp [prepared, Except.toBool] at checked
  | ok plan =>
    have directory : plan.set.directory = ⟨["templates", "mini"]⟩ :=
      TemplateSet.directory_of_load (Render.prepare_eq_ok prepared).1
    have tree : (Workspace.mk blockedFiles []).files.IsTree := .of_entries (by decide)
    have no_links (location : Location) : blockedFiles.LinkFree location :=
      sampleFiles_linkFree (by simp)
    have there : (RenderStep.makeDirectory sampleOptions.output).run blockedFiles =
        .ok () blockedFiles := rfl
    have output : blockedFiles.Leads sampleOptions.output ["w", "out"] := rfl
    have root : blockedFiles.Leads ⟨["templates", "mini"]⟩ ["w", "templates", "mini"] := rfl
    have separate : Render.Separate sampleOptions plan.set blockedFiles := by
      intro made site making leads
      obtain rfl := (EStateM.Result.ok.inj (there.symm.trans making)).2
      obtain rfl := output.unique leads
      rw [directory]
      exact ⟨no_links _, .of_linkFree root (no_links _) (by decide)⟩
    obtain ⟨-, -, broken⟩ := render_breaks_off tree prepared separate
    obtain ⟨broken, spared⟩ := broken e after h
    have none_shipped : blockedFiles.readBytes ⟨["templates", "mini", ".castui", "metadata.json"]⟩ =
        .error .notFound := rfl
    have old : blockedFiles.get? ["w", "out", ".castui", "metadata.json"] =
        some (.file "old".toUTF8 false) := rfl
    have leads := output.of_changes broken.grows
    refine ⟨plan, e, after, rfl, h, broken, ?_⟩
    have kept := spared ?_ ["w", "out"] leads
    · exact (kept.resolve_right fun made => by cases old.symm.trans made.1).trans old
    · intro made bytes making asset
      obtain rfl := (EStateM.Result.ok.inj (there.symm.trans making)).2
      have holds := asset.holds
      rw [directory] at holds
      cases none_shipped.symm.trans holds

/-- The record may not be left as it was, though the set has none. With a link of the set into the
output directory, a file of the set comes to lie behind the link, and is copied over the record. And
a directory stands in the place of the record, when the way to the output directory leads there. -/
theorem broken_off_record_is_replaced :
    let linked := sampleFiles [(["w", "templates", "mini", ".a"], .directory),
      (["w", "templates", "mini", ".a", "metadata.json"], .file "asset".toUTF8 false),
      (["w", "templates", "mini", ".castui"], .link ⟨["..", "..", "out", ".a"]⟩),
      (["w", "out", ".a"], .directory), (["w", "out", ".castui"], .directory),
      (["w", "out", ".castui", "metadata.json"], .file "old".toUTF8 false),
      (["w", "out", "pages"], .directory), (["w", "out", "pages", "_app.tsx"], .directory)]
    let around : RenderOptions :=
      { sampleOptions with output := ⟨["out", ".castui", "metadata.json", "..", ".."]⟩ }
    (linked.Leads sampleOptions.output ["w", "out"] ∧ linked.LinkFree ["w", "out"] ∧
      linked.Leads ⟨["templates", "mini"]⟩ ["w", "templates", "mini"] ∧
      linked.readBytes ⟨["templates", "mini", ".castui", "metadata.json"]⟩ = .error .notFound ∧
      linked.readBytes ⟨["out", ".castui", "metadata.json"]⟩ = .ok "old".toUTF8 ∧
      ∃ e after, render sampleSource sampleOptions ⟨linked, []⟩ = .error e after ∧
        after.files.readBytes ⟨["out", ".castui", "metadata.json"]⟩ = .ok "asset".toUTF8) ∧
    ((sampleFiles []).LinkFree [] ∧
      (sampleFiles []).get? ["w", "out", ".castui", "metadata.json"] = none ∧
      ∃ e after, render sampleSource around ⟨sampleFiles [], []⟩ = .error e after ∧
        after.files.locate around.output = .ok ["w", "out"] ∧
        after.files.hasDirectory ["w", "out", ".castui", "metadata.json"] = true) := by
  intro linked around
  have replaced : Effect.endsBadly (render sampleSource sampleOptions ⟨linked, []⟩)
      (fun _ after => decide ((after.files.readBytes
        ⟨["out", ".castui", "metadata.json"]⟩).toOption = some "asset".toUTF8)) = true := by
    decide +kernel
  have made : Effect.endsBadly (render sampleSource around ⟨sampleFiles [], []⟩)
      (fun _ after => decide (
        (after.files.locate around.output).toOption = some ["w", "out"] ∧
        after.files.hasDirectory ["w", "out", ".castui", "metadata.json"] = true)) = true := by
    decide +kernel
  obtain ⟨e, after, h, read⟩ := Effect.endsBadly_iff.mp replaced
  obtain ⟨e', after', h', there⟩ := Effect.endsBadly_iff.mp made
  obtain ⟨located, there⟩ := of_decide_eq_true there
  have replaced := except_toOption_eq_some.mp (of_decide_eq_true read)
  exact ⟨⟨rfl, sampleFiles_linkFree (by simp), rfl, rfl, rfl, e, after, h, replaced⟩,
    sampleFiles_linkFree (by simp), rfl, e', after', h', except_toOption_eq_some.mp located, there⟩

section Blame

variable {now : Instant} {choices : GenerateOptions} {after : Workspace} {e : GenerateError}

private theorem generate_error_inv (h : generate now choices before = .error e after) :
    ((∀ directory cause, e ≠ .render (.brokenTree directory cause)) ∧ after.files = before.files) ∨
      ∃ program plan rendered cause, e = .render cause ∧ rendered.files = before.files ∧
        RenderPlan.prepare (.ofProgram program) (choices.forRender now) before.files = .ok plan ∧
        Render.writeTree (.ofProgram program) (choices.forRender now) plan rendered =
          .error cause after := by
  rcases generate_error_cases h with
    ⟨cause, rfl, rfl⟩ | ⟨program, w, cause, loaded, rfl, same, ended⟩
  · exact .inl ⟨nofun, rfl⟩
  rcases Effect.bind_eq_error.mp ended with checked | ⟨plan, w₁, checked, written⟩
  · obtain ⟨refused, rfl⟩ := Effect.query_eq_error.mp checked
    refine .inl ⟨fun directory cause' broken => ?_, same⟩
    cases broken
    exact absurd (Render.prepare_raises refused) Bool.false_ne_true
  · obtain ⟨prepared, rfl⟩ := Effect.query_eq_ok.mp checked
    exact .inr ⟨program, plan, w₁, cause, rfl, same, same ▸ prepared, written⟩

/-- An error that blames the descriptor or the template set leaves the files as they were, unless it
is found on the walk through the assets. Then the output directory was made before, and what was
copied stays. -/
theorem generate_blaming_input (h : generate now choices before = .error e after)
    (blames : e.kind = .invalidDescriptor ∨ e.kind = .templateNotFound ∨
      e.kind = .invalidTemplate) :
    ((∀ directory cause, e ≠ .render (.brokenTree directory cause)) →
      after.files = before.files) ∧
    ∀ directory cause, e = .render (.brokenTree directory cause) →
      ∃ made, (RenderStep.makeDirectory choices.output).run before.files = .ok () made ∧
        made.Grows after.files := by
  rcases generate_error_inv h with
    ⟨walked, same⟩ | ⟨program, plan, w, cause, rfl, same, prepared, written⟩
  · exact ⟨fun _ => same, fun directory cause broken => absurd broken (walked directory cause)⟩
  · have raised := Render.writeTree_raises _ _ _ _ _ _ written
    obtain ⟨directory, broken, rfl⟩ : ∃ directory broken, cause = .brokenTree directory broken := by
      cases cause <;> simp_all [Render.isFault, GenerateError.kind, RenderError.kind]
    refine ⟨fun other => absurd rfl (other directory broken), fun _ _ _ => ?_⟩
    rw [Render.writeTree_eq] at written
    rcases Effect.bind_eq_error.mp written with refused | ⟨⟨⟩, w', making, filled⟩
    · obtain ⟨_, -, differs⟩ :=
        Effect.adaptExcept_eq_error.mp (Effect.onFiles_eq_error.mp refused).1
      cases differs
    · have named := (Render.prepare_eq_ok prepared).2.2
      have builds : w'.files.Grows after.files :=
        ((Render.fillOutput_builds named).error w' _ after filled).grows
      exact ⟨w'.files, same ▸ (Effect.onFiles_eq_ok.mp making).1, builds⟩

end Blame

theorem generate_blaming_faulty_template :
    let files := sampleFiles [(["w", "templates", "odd"], .directory),
      (["w", "templates", "odd", "pages"], .directory),
      (["w", "templates", "odd", "pages", "_app.tsx.tmpl"],
        .file "\x7b\x7bnope\x7d\x7d".toUTF8 false),
      (["w", "templates", "odd", "pages", "instruction.tsx.tmpl"], .file "".toUTF8 false)]
    let choices : GenerateOptions := { sampleChoices with template := "odd" }
    ∃ e after, generate ⟨0, 0⟩ choices ⟨files, []⟩ = .error e after ∧ e.kind = .invalidTemplate ∧
      after.files = files := by
  intro files choices
  have fails : Effect.endsBadly (generate ⟨0, 0⟩ choices ⟨files, []⟩) (fun e _ =>
      e.kind = .invalidTemplate ∧ e matches .render (.faultyTemplate ..)) = true := by
    decide +kernel
  obtain ⟨e, after, h, blamed⟩ := Effect.endsBadly_iff.mp fails
  simp only [Bool.decide_and, Bool.and_eq_true, decide_eq_true_eq] at blamed
  refine ⟨e, after, h, blamed.1, (generate_blaming_input h (.inr (.inr blamed.1))).1 ?_⟩
  rintro directory cause rfl
  cases blamed.2

/-- A link to nothing among the assets is found when the assets before it are copied. -/
theorem broken_asset_leaves_copies :
    let files := sampleFiles [(["w", "templates", "mini", "a.txt"], .file "a".toUTF8 false),
      (["w", "templates", "mini", "zz"], .link ⟨["nowhere"]⟩)]
    files.readBytes ⟨["out", "a.txt"]⟩ = .error .notFound ∧
      ∃ e after, generate ⟨0, 0⟩ sampleChoices ⟨files, []⟩ = .error e after ∧
        e.kind = .invalidTemplate ∧ after.files.readBytes ⟨["out", "a.txt"]⟩ = .ok "a".toUTF8 := by
  intro files
  have fails : Effect.endsBadly (generate ⟨0, 0⟩ sampleChoices ⟨files, []⟩) (fun e after =>
      e.kind = .invalidTemplate ∧
        (after.files.readBytes ⟨["out", "a.txt"]⟩).toOption = some "a".toUTF8) = true := by
    decide +kernel
  obtain ⟨e, after, h, found⟩ := Effect.endsBadly_iff.mp fails
  obtain ⟨blamed, read⟩ := of_decide_eq_true found
  exact ⟨rfl, e, after, h, blamed, except_toOption_eq_some.mp read⟩

end UiScaffold
