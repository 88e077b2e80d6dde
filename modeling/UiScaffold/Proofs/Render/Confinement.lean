import UiScaffold.Proofs.Render.Output

/-!
Where a generation can write.

Whatever a descriptor says, and however a generation ends, it makes directories on the way to the
output directory, and everything else that it makes or writes is below that directory. A page is
written right in the directory of the pages.
-/

set_option autoImplicit false
set_option relaxedAutoImplicit false

namespace UiScaffold

open Effect (Keeps OnFiles)
open FileSystem (Changes Open Between MadeAlong)

namespace FileSystem

def LiesBelow (fs : FileSystem) (path : Path) (location : Location) : Prop :=
  ∃ site names, fs.Leads path site ∧ names ≠ [] ∧ location = site ++ names

/-- A change that makes directories on the way to an output directory and below it, and writes files
below it. -/
def StaysIn (output : Path) (before after : FileSystem) : Prop :=
  Changes
    (fun location =>
      (∃ path ∈ output.ancestors, after.Leads path location) ∨ after.LiesBelow output location)
    (after.LiesBelow output) before after

/-- A change of a file below an output directory, and of nothing but directories on the way down. -/
def WritesAt (output : Path) (names : List String) (before after : FileSystem) : Prop :=
  ∀ site, before.Open output site →
    Changes (Between site names.dropLast) (· = site ++ names) before after ∧
      (before.IsTree → after.IsTree)

/-- A change of a tree below an output directory, and of nothing else. -/
def Confined (output : Path) (before after : FileSystem) : Prop :=
  ∀ site, before.Open output site → before.IsTree →
    Changes (site <+: ·) (fun location => ∃ names, names ≠ [] ∧ location = site ++ names)
      before after ∧ after.IsTree

variable {output : Path} {names : List String} {before middle after : FileSystem}

theorem WritesAt.refl (fs : FileSystem) : WritesAt output names fs fs :=
  fun _ _ => ⟨Changes.refl, id⟩

theorem WritesAt.trans (before middle after : FileSystem)
    (first : WritesAt output names before middle)
    (second : WritesAt output names middle after) : WritesAt output names before after := by
  intro site site_open
  obtain ⟨changes, tree⟩ := first site site_open
  obtain ⟨changes', tree'⟩ := second site (site_open.of_changes changes)
  exact ⟨changes.trans changes', tree' ∘ tree⟩

theorem WritesAt.confined (filled : names ≠ []) (before after : FileSystem)
    (h : WritesAt output names before after) : Confined output before after := by
  intro site site_open tree
  obtain ⟨changes, tree'⟩ := h site site_open
  exact ⟨changes.mono (fun _ _ between => between.1) fun _ same => ⟨names, filled, same⟩,
    tree' tree⟩

theorem Confined.refl (fs : FileSystem) : Confined output fs fs :=
  fun _ _ tree => ⟨Changes.refl, tree⟩

theorem Confined.trans (before middle after : FileSystem) (first : Confined output before middle)
    (second : Confined output middle after) : Confined output before after := by
  intro site site_open tree
  obtain ⟨changes, tree⟩ := first site site_open tree
  obtain ⟨changes', tree⟩ := second site (site_open.of_changes changes) tree
  exact ⟨changes.trans changes', tree⟩

/-- A change that is confined, and takes nothing away where it is not known to be. -/
structure Builds (output : Path) (before after : FileSystem) : Prop where
  grows : before.Grows after
  confined : Confined output before after

theorem Builds.refl (fs : FileSystem) : Builds output fs fs := ⟨Changes.refl, Confined.refl fs⟩

theorem Builds.trans (before middle after : FileSystem) (first : Builds output before middle)
    (second : Builds output middle after) : Builds output before after :=
  ⟨Changes.trans first.grows second.grows,
    Confined.trans before middle after first.confined second.confined⟩

/-- What was made on the way to an output directory and what is built below it stays in it. -/
theorem Builds.staysIn (made : before.MadeAlong output.ancestors middle) {site : Location}
    (leads : middle.Leads output site) (builds : Builds output middle after) (tree : before.IsTree)
    (free : ∀ site, after.Leads output site → before.LinkFree site) :
    StaysIn output before after := by
  have leads' := leads.of_changes builds.grows
  have site_open : middle.Open output site := ⟨leads, (free site leads').of_changes made.changes⟩
  obtain ⟨changes, -⟩ := builds.confined site site_open (made.tree tree)
  refine .trans (made.changes.mono ?_ fun _ none => none.elim) (changes.mono ?_ ?_)
  · rintro location - ⟨path, listed, reached⟩
    exact .inl ⟨path, listed, reached.of_changes changes⟩
  · rintro location - ⟨names, rfl⟩
    by_cases filled : names = []
    · exact .inl ⟨output, List.mem_cons_self, by rwa [filled, List.append_nil]⟩
    · exact .inr ⟨site, names, leads', filled, rfl⟩
  · rintro location ⟨names, filled, rfl⟩
    exact ⟨site, names, leads', filled, rfl⟩

end FileSystem

open FileSystem (WritesAt Confined Builds StaysIn)

variable {output : Path} {names : List String}

section Steps

variable (normal : ∀ name ∈ names, Path.isNormal name = true) (filled : names ≠ [])
include normal filled

namespace FileAction

private theorem store_keeps (contents : ByteArray) (mode : Bool) :
    Keeps (store (output.append names) contents mode) (WritesAt output names) := by
  constructor
  · intro fs _ fs' h site site_open
    obtain ⟨stored, -⟩ := store_below site_open normal filled h
    exact ⟨stored.changes.mono (fun _ _ none => none.elim) fun _ same => same, stored.tree⟩
  · intro fs e fs' h
    rw [store_error h]
    exact WritesAt.refl fs

private theorem setExecutable_keeps (mode : Bool) :
    Keeps (setExecutable (output.append names) mode) (WritesAt output names) := by
  constructor
  · intro fs _ fs' h site site_open
    rcases setExecutable_cases h with ⟨location, contents, old, located, there, -⟩ | rfl
    · obtain ⟨place, -⟩ := FileSystem.resolve_below normal filled site_open.leads site_open.free
        (FileSystem.locate_eq_ok.mp located)
      obtain rfl : location = site ++ names := place
      have stored := setExecutable_below site_open normal filled ⟨old, there⟩ h
      exact ⟨stored.changes.mono (fun _ _ none => none.elim) fun _ same => same, stored.tree⟩
    · exact ⟨Changes.refl, id⟩
  · intro fs e fs' h
    rw [setExecutable_error h]
    exact WritesAt.refl fs

private theorem copy_keeps (source : Path) :
    Keeps (copy source (output.append names)) (WritesAt output names) := by
  have asked {α : Type} {query : FileSystem → Except OsError α} :
      Keeps (ask query) (WritesAt output names) :=
    ask_keeps.mono (Effect.Same.elim WritesAt.refl)
  unfold copy
  refine .bind WritesAt.trans asked fun entry => ?_
  refine .bind WritesAt.trans (store_keeps normal filled _ _) fun _ => ?_
  refine .bind WritesAt.trans asked fun contents => ?_
  refine .bind WritesAt.trans (store_keeps normal filled _ _) fun _ => ?_
  exact setExecutable_keeps normal filled _

end FileAction

namespace RenderStep

private theorem makeParent_keeps :
    Keeps (makeParent (output.append names)) (WritesAt output names) :=
  (makeParent_along _).mono fun _ _ made _ site_open =>
    ⟨(parents_below site_open normal filled made).mono (fun _ _ between => between)
      fun _ none => none.elim, made.tree⟩

private theorem copy_writesAt (source : Path) :
    Keeps (copy source (output.append names)).run (WritesAt output names) :=
  .bind WritesAt.trans (makeParent_keeps normal filled) fun _ =>
    .adaptExcept _ (FileAction.copy_keeps normal filled source)

theorem write_writesAt (text : String) :
    Keeps (write (output.append names) text).run (WritesAt output names) :=
  .bind WritesAt.trans (makeParent_keeps normal filled) fun _ =>
    .adaptExcept _ (FileAction.store_keeps normal filled _ _)

private theorem makeDirectory_builds :
    Keeps (makeDirectory (output.append names)).run (Builds output) := by
  have confined : Keeps (makeDirectory (output.append names)).run (Confined output) :=
    (ensureDirectory_along _).mono fun _ _ made _ site_open tree =>
      ⟨(ancestors_below site_open normal filled made).mono (fun _ _ between => between.1)
        fun _ none => none.elim, made.tree tree⟩
  exact ((run_adds _).both confined).mono fun _ _ h => ⟨h.1.grows, h.2⟩

private theorem write_builds (text : String) :
    Keeps (write (output.append names) text).run (Builds output) :=
  ((run_adds _).both (write_writesAt normal filled text)).mono fun before after h =>
    ⟨h.1.grows, h.2.confined filled before after⟩

end RenderStep

end Steps

namespace Render

variable {source : RenderSource} {options : RenderOptions} {plan : RenderPlan}

theorem copyAssets_builds (directory output : Path) :
    Keeps (copyAssets directory output) (Builds output) := by
  have confined : Keeps (copyAssets directory output) (Confined output) := by
    refine .bind Confined.trans ?_ fun _ => .pure Confined.refl _
    refine Walk.walkFrom_keeps (I := fun fs => (∃ site, fs.Open output site) ∧ fs.IsTree)
      (N := fun name => Path.isNormal name = true) Confined.refl Confined.trans ?_ ?_ ?_ _ _ _ _
      (by simp)
    · exact fun fs fs' unready site site_open tree => absurd ⟨⟨site, site_open⟩, tree⟩ unready
    · exact fun fs directory name entry ready => ready.2.normal directory name entry
    · exact fun asset normal filled =>
        (RenderStep.copy_writesAt normal filled _).mono (WritesAt.confined filled)
  exact ((copyAssets_adds _ _).both confined).mono fun _ _ h => ⟨h.1.grows, h.2⟩

def openPages (source : RenderSource) (options : RenderOptions) (plan : RenderPlan) :
    Work RenderError Nat := do
  let copied ← Work.onFiles (copyAssets plan.set.directory options.output)
  Work.report (.copiedAssets options.template copied)
  let shell := plan.set.shell.render (options.context source)
  Work.onFiles (RenderStep.write options.shellPath shell).run
  Work.report (.renderedShell options.shellPath)
  Work.onFiles (RenderStep.makeDirectory options.pagesPath).run
  return copied

def placePage (source : RenderSource) (options : RenderOptions) (plan : RenderPlan)
    (page : Form × Path) : Work RenderError Unit :=
  writePage plan.set.page (options.context source) page.1 page.2

def closePages (source : RenderSource) (options : RenderOptions) (plan : RenderPlan)
    (copied : Nat) : Work RenderError RenderSummary := do
  Work.report (.renderedPages plan.pages.length)
  let recordPath ← Work.onFiles (writeRecord options.output (options.record source))
  Work.report (.wroteRecord recordPath)
  return { copied, shell := options.shellPath, pages := plan.pages.map (·.2), recordPath,
           record := options.record source }

def fillPages (source : RenderSource) (options : RenderOptions) (plan : RenderPlan)
    (copied : Nat) : Work RenderError RenderSummary := do
  plan.pages.forM (placePage source options plan)
  closePages source options plan copied

def fillOutput (source : RenderSource) (options : RenderOptions) (plan : RenderPlan) :
    Work RenderError RenderSummary := do
  let copied ← openPages source options plan
  fillPages source options plan copied

theorem writeTree_eq : writeTree source options plan =
    (do Work.onFiles (RenderStep.makeDirectory options.output).run
        fillOutput source options plan) := by
  simp only [fillOutput, openPages, fillPages, bind_assoc, pure_bind]
  rfl

theorem normal_of_mem_generated {set : TemplateSet} {names : List String} {bytes : ByteArray}
    (h : (names, bytes) ∈ generated set source options) :
    (∀ name ∈ names, Path.isNormal name = true) ∧ names ≠ [] := by
  rcases mem_generated.mp h with ⟨rfl, -⟩ | ⟨form, -, rfl, -⟩ | ⟨rfl, -⟩
  · exact ⟨by decide, by simp⟩
  · exact ⟨page_normal form.name, by simp⟩
  · exact ⟨by decide, by simp⟩

section Parts

variable {Q : {α : Type} → Work RenderError α → Prop} (composes : Effect.Composes Q)
  (writing : ∀ names text, (names, text.toUTF8) ∈ generated plan.set source options →
    Q (Work.onFiles (RenderStep.write (options.output.append names) text).run))
include composes writing

private theorem openPages_parts
    (copying : Q (Work.onFiles (copyAssets plan.set.directory options.output)))
    (making : Q (Work.onFiles
      (RenderStep.makeDirectory (options.output.append ["pages", "instruction"])).run)) :
    Q (openPages source options plan) := by
  have shell := writing _ _ (mem_generated.mpr (.inr (.inr ⟨rfl, rfl⟩)))
  refine composes.bind copying fun copied => composes.bind (composes.report _) fun _ => ?_
  refine composes.bind shell fun _ => composes.bind (composes.report _) fun _ => ?_
  exact composes.bind making fun _ => composes.pure _

private theorem closePages_parts (copied : Nat) : Q (closePages source options plan copied) := by
  have place : GenerationRecord.place options.output =
      options.output.append [".castui", "metadata.json"] := Path.child_append (by decide)
  have record := writing _ _ (mem_generated.mpr (.inl ⟨rfl, rfl⟩))
  unfold closePages writeRecord
  rw [place, Effect.onFiles_bind]
  refine composes.bind (composes.report _) fun _ => ?_
  refine composes.bind (composes.bind record fun _ => composes.pure _) fun path => ?_
  exact composes.bind (composes.report _) fun _ => composes.pure _

private theorem fillPages_parts (named : plan.pages = source.forms.map fun form =>
      (form, options.output.append ["pages", "instruction", Page.fileName form.name]))
    (copied : Nat) : Q (fillPages source options plan copied) := by
  refine composes.bind (composes.forM _ fun page listed => ?_) fun _ =>
    closePages_parts composes writing copied
  rw [named] at listed
  obtain ⟨form, member, rfl⟩ := List.mem_map.mp listed
  refine composes.bind (writing _ _ ?_) fun _ => composes.report _
  exact mem_generated.mpr (.inr (.inl ⟨form, member, rfl, rfl⟩))

end Parts

private theorem builds_trans (w w' w'' : Workspace) (first : OnFiles (Builds output) w w')
    (second : OnFiles (Builds output) w' w'') : OnFiles (Builds output) w w'' :=
  Builds.trans w.files w'.files w''.files first second

private theorem builds_composes :
    Effect.Composes fun {α} (x : Work RenderError α) => Keeps x (OnFiles (Builds output)) :=
  ⟨.pure fun w => .refl w.files, .bind builds_trans, .report .refl⟩

private theorem generated_builds (names : List String) (text : String)
    (listed : (names, text.toUTF8) ∈ generated plan.set source options) :
    Keeps (Work.onFiles (RenderStep.write (output.append names) text).run)
      (OnFiles (Builds output)) := by
  obtain ⟨normal, filled⟩ := normal_of_mem_generated listed
  exact .onFiles (RenderStep.write_builds normal filled text)

theorem openPages_builds :
    Keeps (openPages source options plan) (OnFiles (Builds options.output)) :=
  openPages_parts (Q := fun x => Keeps x (OnFiles (Builds options.output))) builds_composes
    generated_builds (.onFiles (copyAssets_builds _ _))
    (.onFiles (RenderStep.makeDirectory_builds (by decide) (by simp)))

section Fill

variable (named : plan.pages = source.forms.map fun form =>
  (form, options.output.append ["pages", "instruction", Page.fileName form.name]))
include named

/-- When the output directory is there, a run copies assets, writes the generated files and makes
the directory of the pages, so it has what sequences of these have. -/
theorem fillOutput_parts {Q : {α : Type} → Work RenderError α → Prop}
    (composes : Effect.Composes Q)
    (copying : Q (Work.onFiles (copyAssets plan.set.directory options.output)))
    (making : Q (Work.onFiles
      (RenderStep.makeDirectory (options.output.append ["pages", "instruction"])).run))
    (writing : ∀ names text, (names, text.toUTF8) ∈ generated plan.set source options →
      Q (Work.onFiles (RenderStep.write (options.output.append names) text).run)) :
    Q (fillOutput source options plan) :=
  composes.bind (openPages_parts composes writing copying making)
    (fillPages_parts composes writing named)

/-- When the output directory is there, a run copies assets, writes texts and makes directories
below it, so it has what sequences of these have. -/
theorem fillOutput_composes {Q : {α : Type} → Work RenderError α → Prop}
    (composes : Effect.Composes Q)
    (copying : Q (Work.onFiles (copyAssets plan.set.directory options.output)))
    (making : ∀ names, (∀ name ∈ names, Path.isNormal name = true) → names ≠ [] →
      Q (Work.onFiles (RenderStep.makeDirectory (options.output.append names)).run))
    (writing : ∀ names text, (∀ name ∈ names, Path.isNormal name = true) → names ≠ [] →
      Q (Work.onFiles (RenderStep.write (options.output.append names) text).run)) :
    Q (fillOutput source options plan) := by
  refine fillOutput_parts named composes copying (making _ (by decide) (by simp)) ?_
  intro names text listed
  obtain ⟨normal, filled⟩ := normal_of_mem_generated listed
  exact writing names text normal filled

theorem fillPages_builds (copied : Nat) :
    Keeps (fillPages source options plan copied) (OnFiles (Builds options.output)) :=
  fillPages_parts (Q := fun x => Keeps x (OnFiles (Builds options.output))) builds_composes
    generated_builds named copied

/-- When the output directory is there, a run works below it only. -/
theorem fillOutput_builds :
    Keeps (fillOutput source options plan) (OnFiles (Builds options.output)) :=
  .bind builds_trans openPages_builds (fillPages_builds named)

private theorem writeTree_staysIn :
    Keeps (writeTree source options plan) (OnFiles fun before after => before.IsTree →
      (∀ site, after.Leads options.output site → before.LinkFree site) →
        StaysIn options.output before after) := by
  rw [writeTree_eq]
  refine .bind_via
    (S := fun w _ w' => w.files.MadeAlong options.output.ancestors w'.files ∧
      ∃ site, w'.files.Leads options.output site)
    (T := fun _ => OnFiles (Builds options.output)) ?_ ?_ (fun _ => fillOutput_builds named) ?_
  · intro w _ w' h
    have making := (Effect.onFiles_eq_ok.mp h).1
    obtain ⟨made, there⟩ := FileAction.makeDirectories_ok (Effect.adaptExcept_eq_ok.mp making)
    exact ⟨made, FileSystem.exists_leads there⟩
  · intro w e w' h _ _
    have made : w.files.MadeAlong options.output.ancestors w'.files :=
      (Keeps.onFiles (RenderStep.ensureDirectory_along options.output)).error w e w' h
    exact made.changes.mono (fun _ _ => .inl) fun _ none => none.elim
  · rintro w ⟨⟩ w' w'' ⟨made, site, leads⟩ builds
    exact Builds.staysIn made leads builds

end Fill

end Render

theorem render_of_prepared {source : RenderSource} {options : RenderOptions} {plan : RenderPlan}
    {before : Workspace}
    (prepared : RenderPlan.prepare source options before.files = .ok plan) :
    render source options before = Render.writeTree source options plan before := by
  have asked : Work.query (RenderPlan.prepare source options) before = .ok plan before := by
    simp only [Work.query, prepared]
  change EStateM.bind _ _ before = _
  rw [EStateM.bind, asked]

private theorem render_staysIn (source : RenderSource) (options : RenderOptions) :
    Keeps (render source options) (OnFiles fun before after => before.IsTree →
      (∀ site, after.Leads options.output site → before.LinkFree site) →
        StaysIn options.output before after) := by
  refine .bind_quiet (P := fun plan => plan.pages = source.forms.map fun form =>
      (form, options.output.append ["pages", "instruction", Page.fileName form.name]))
    (fun _ _ _ => Changes.refl) .query ?_ fun plan named => Render.writeTree_staysIn named
  intro w plan w' h
  exact (Render.prepare_eq_ok (Effect.query_eq_ok.mp h).1).2.2

private theorem generate_keeps (now : Instant) (choices : GenerateOptions) :
    Keeps (generate now choices) (OnFiles fun before after => before.IsTree →
      (∀ site, after.Leads choices.output site → before.LinkFree site) →
        StaysIn choices.output before after) := by
  refine .bind_quiet (P := fun _ => True) (fun _ _ _ => Changes.refl) .query
    (fun _ _ _ _ => trivial) fun program _ => ?_
  refine .bind_quiet (P := fun _ => True) (fun _ _ _ => Changes.refl)
    (.report Effect.Same.refl _) (fun _ _ _ _ => trivial) fun _ _ => ?_
  refine .bind_quiet (P := fun _ => True) (fun _ _ _ => Changes.refl)
    (.report Effect.Same.refl _) (fun _ _ _ _ => trivial) fun _ _ => ?_
  exact .map _ (.adaptExcept _ (render_staysIn _ _))

variable {now : Instant} {choices : GenerateOptions} {before : Workspace}

/-- The name of an instruction with dots, a quote and a dollar sign in it is accepted. -/
def hostileFiles : FileSystem :=
  sampleFiles [(["w", "evil.json"],
    .file "\x7b\"instructions\": [\x7b\"name\": \"..\\\"$(x)~..\"\x7d]\x7d".toUTF8 false)]

end UiScaffold
