import Mathlib.Data.List.Nodup
import UiScaffold.Proofs.Except
import UiScaffold.Proofs.Render.Overlay
import UiScaffold.Proofs.Render.Validation

/-!
What a generation leaves behind.

A generation that succeeds has put the assets of the template set below the output directory and the
generated files over them: the app shell, a page for each form and the record. Nothing else is
different from what it was before.
-/

set_option autoImplicit false
set_option relaxedAutoImplicit false

namespace UiScaffold

open FileSystem (Changes Open Between LinkFree)

/-- An asset of a set: a file that names lead to from the directory of the set, through links, and
that is no template. -/
structure TemplateSet.HasAsset (set : TemplateSet) (fs : FileSystem) (names : List String)
    (bytes : ByteArray) : Prop where
  normal : ∀ name ∈ names, Path.isNormal name = true
  filled : names ≠ []
  copied : isAsset ⟨set.directory.down names, names⟩ = true
  holds : fs.readBytes (set.directory.down names) = .ok bytes

namespace Render

/-- The files that a run generates, by their names below the output directory. -/
def generated (set : TemplateSet) (source : RenderSource) (options : RenderOptions) : Overlay :=
  let context := options.context source
  let pages := source.forms.map fun form =>
    (["pages", "instruction", Page.fileName form.name],
      (set.page.render (context.withForm form)).toUTF8)
  ([".castui", "metadata.json"], (options.record source).write.toUTF8) :: pages ++
    [(["pages", "_app.tsx"], (set.shell.render context).toUTF8)]

/-- A file that a run leaves in the output: a generated one, or an asset whose place none of those
takes. -/
inductive Leaves (fs : FileSystem) (set : TemplateSet) (source : RenderSource)
    (options : RenderOptions) (names : List String) (bytes : ByteArray) : Prop
  | generated : (names, bytes) ∈ generated set source options →
      Leaves fs set source options names bytes
  | asset : (∀ other, (names, other) ∉ Render.generated set source options) →
      set.HasAsset fs names bytes → Leaves fs set source options names bytes

/-- A directory that a run needs at the output directory or below it: for the pages, or for a
file. -/
inductive NeedsDirectory (fs : FileSystem) (set : TemplateSet) (source : RenderSource)
    (options : RenderOptions) (site location : Location) : Prop
  | pages : Between site ["pages", "instruction"] location →
      NeedsDirectory fs set source options site location
  | parent {names : List String} {bytes : ByteArray} : Leaves fs set source options names bytes →
      Between site names.dropLast location → NeedsDirectory fs set source options site location

/-- What a run makes of the files, where the output directory is at a site: the files that it leaves
are there with their contents, the directories that it needs are there, and all else is as it was,
but that directories were added on the way to the output directory. The assets are those of the set
as it is after the run, and all that were there before are still there. -/
structure Output (set : TemplateSet) (source : RenderSource) (options : RenderOptions)
    (site : Location) (before after : FileSystem) : Prop where
  files : ∀ names bytes, Leaves after set source options names bytes →
    ∃ mode, after.get? (site ++ names) = some (.file bytes mode)
  assets : ∀ names bytes, set.HasAsset before names bytes → set.HasAsset after names bytes
  directories : ∀ location, NeedsDirectory after set source options site location →
    after.get? location = some .directory
  others : Changes
    (fun location => NeedsDirectory after set source options site location ∨
      ∃ path ∈ options.output.ancestors, after.Leads path location)
    (fun location => ∃ names bytes, Leaves after set source options names bytes ∧
      location = site ++ names) before after
  tree : after.IsTree

variable {set : TemplateSet} {source : RenderSource} {options : RenderOptions} {plan : RenderPlan}
  {names : List String} {bytes other : ByteArray} {before after : Workspace}
  {summary : RenderSummary}

theorem fileName_injective {name name' : String} (h : Page.fileName name = Page.fileName name') :
    name = name' := by
  have same := congrArg String.toList h
  simp only [Page.fileName, String.toList_append, List.append_assoc] at same
  exact String.toList_inj.mp (List.append_cancel_right same)

theorem isNormal_fileName (name : String) : Path.isNormal (Page.fileName name) = true := by
  have long : 4 ≤ (Page.fileName name).length := by
    rw [Page.fileName, Page.extension, String.length_append, String.length_append]
    exact Nat.le_add_left 4 name.length
  have differs : ∀ short : String, short.length < 4 → Page.fileName name ≠ short := by
    rintro short less rfl
    omega
  simp only [Path.isNormal, Bool.and_eq_true, bne_iff_ne]
  exact ⟨⟨differs "" (by decide), differs "." (by decide)⟩, differs ".." (by decide)⟩

theorem page_normal (name : String) :
    ∀ other ∈ ["pages", "instruction", Page.fileName name], Path.isNormal other = true := by
  simp only [List.forall_mem_cons, isNormal_fileName, List.not_mem_nil, false_implies,
    implies_true, and_true]
  decide

theorem mem_generated : (names, bytes) ∈ generated set source options ↔
    (names = [".castui", "metadata.json"] ∧ bytes = (options.record source).write.toUTF8) ∨
    (∃ form ∈ source.forms, names = ["pages", "instruction", Page.fileName form.name] ∧
      bytes = (set.page.render ((options.context source).withForm form)).toUTF8) ∨
    (names = ["pages", "_app.tsx"] ∧
      bytes = (set.shell.render (options.context source)).toUTF8) := by
  simp only [generated, List.mem_append, List.mem_cons, List.mem_map, Prod.mk.injEq,
    List.not_mem_nil, or_false, or_assoc, eq_comm (b := names), eq_comm (b := bytes)]

private theorem generated_unique (sound : Page.Sound source.forms)
    (h : (names, bytes) ∈ generated set source options)
    (h' : (names, other) ∈ generated set source options) : other = bytes := by
  rcases mem_generated.mp h with ⟨rfl, rfl⟩ | ⟨form, listed, rfl, rfl⟩ | ⟨rfl, rfl⟩
  · rcases mem_generated.mp h' with ⟨-, same⟩ | ⟨form', -, differs, -⟩ | ⟨differs, -⟩
    · exact same
    · simp at differs
    · simp at differs
  · rcases mem_generated.mp h' with ⟨differs, -⟩ | ⟨form', listed', same, rfl⟩ | ⟨differs, -⟩
    · simp at differs
    · have same_name : form.name = form'.name := fileName_injective (by simpa using same)
      rw [List.inj_on_of_nodup_map sound.1 listed listed' same_name]
    · simp at differs
  · rcases mem_generated.mp h' with ⟨differs, -⟩ | ⟨form', -, differs, -⟩ | ⟨-, same⟩
    · simp at differs
    · simp at differs
    · exact same

section Assets

variable {fs fs' last : FileSystem} {output : Path} {site : Location}
  (apart : Walk.Apart last set.directory site)
include apart

private theorem hasAsset_of_changes {directories files : Location → Prop}
    (change : Changes directories files fs last)
    (below : ∀ location, files location → site <+: location) (asset : set.HasAsset fs names bytes) :
    set.HasAsset last names bytes := by
  obtain ⟨mode, found⟩ := FileSystem.readBytes_eq_ok.mp asset.holds
  have found := FileSystem.status_of_changes change found fun location leads written =>
    (apart _ _ asset.normal (leads.of_changes change)).1 (below location written)
  have holds := FileSystem.readBytes_eq_ok.mpr ⟨mode, found⟩
  exact ⟨asset.normal, asset.filled, asset.copied, holds⟩

private theorem copy_ok {asset : Asset}
    (found : Walk.Wanted set.directory TemplateSet.isAsset asset) (site_open : fs.Open output site)
    (h : (RenderStep.copy asset.path (output.append asset.relative)).run fs = .ok () fs') :
    ∃ bytes, Wrote site [] [(asset.relative, bytes)] fs fs' ∧
      (fs'.Within site last → set.HasAsset last asset.relative bytes) := by
  obtain ⟨bytes, location, wrote, leads, accepted, kept⟩ :=
    RenderStep.copy_below site_open found.normal found.filled h
  refine ⟨bytes, wrote, fun later => ?_⟩
  have leads := leads.of_changes later
  rw [found.spelled] at leads accepted
  have outside := (apart _ _ found.normal leads).1
  obtain ⟨mode, there⟩ := kept outside
  have there := (wrote.within.trans later).kept outside there
  have holds := FileSystem.readBytes_down found.normal found.filled accepted leads there
  exact ⟨found.normal, found.filled, found.spelled ▸ found.wanted, holds⟩

private theorem copyAssets_ok {count : Nat} (site_open : fs.Open output site) (tree : fs.IsTree)
    (h : copyAssets set.directory output fs = .ok count fs') :
    ∃ files, Wrote site [] files fs fs' ∧ (fs'.Within site last →
      ∀ names bytes, (names, bytes) ∈ files ↔ set.HasAsset last names bytes) := by
  obtain ⟨assets, fs₁, walked, done⟩ := Effect.bind_eq_ok.mp h
  cases done
  have visits : Walk.Visits site
      (fun asset => (RenderStep.copy asset.path (output.append asset.relative)).run)
      (fun fs => fs.Open output site ∧ fs.IsTree) := by
    refine ⟨fun fs kept => kept.2, ?_⟩
    rintro asset fs fs' normal filled ⟨site_open, tree⟩ copied
    obtain ⟨bytes, location, wrote, -⟩ := RenderStep.copy_below site_open normal filled copied
    exact ⟨⟨site_open.of_changes wrote.changes, wrote.tree tree⟩, wrote.within⟩
  obtain ⟨done, covers⟩ := Walk.walk_ok apart visits ⟨site_open, tree⟩ walked
  obtain ⟨files, wrote, lists⟩ := Wrote.forM last Asset.relative
    (P := fun asset bytes => set.HasAsset last asset.relative bytes)
    (fun asset listed _ _ => copy_ok apart (done.wanted asset listed)) site_open done.visited
  refine ⟨files, wrote, fun later names bytes => ?_⟩
  obtain ⟨all, only⟩ := lists later
  constructor
  · intro listed
    obtain ⟨asset, -, rfl, holds⟩ := only _ listed
    exact holds
  · intro asset
    obtain ⟨mode, found⟩ := FileSystem.readBytes_eq_ok.mp asset.holds
    obtain ⟨location, located, there⟩ := FileSystem.status_eq_ok.mp found
    obtain ⟨visited, listed, rfl⟩ := covers later names asset.filled
      ⟨asset.normal, asset.copied, location, bytes, mode, .of_locate located, there⟩
    obtain ⟨other, member, asset'⟩ := all visited listed
    rwa [Except.ok.inj (asset'.holds.symm.trans asset.holds)] at member

end Assets

section Overlay

variable {start made last : FileSystem} {site : Location} {files copies : Overlay}
  (sound : Page.Sound source.forms)
  (all : ∀ names bytes, (names, bytes) ∈ files ↔ (names, bytes) ∈ generated set source options)
  (assets : ∀ names bytes, (names, bytes) ∈ copies ↔ set.HasAsset last names bytes)

include sound all assets in
private theorem lookup_of_leaves (h : Leaves last set source options names bytes) :
    (files ++ copies).lookup names = some bytes := by
  rw [List.lookup_append]
  cases h with
  | generated listed =>
    have found := Overlay.lookup_of_unique ((all names bytes).mpr listed) fun other listed' =>
      generated_unique sound listed ((all names other).mp listed')
    rw [found, Option.some_or]
  | asset free asset =>
    have none : files.lookup names = none := by
      refine List.lookup_eq_none_iff.mpr fun file listed => bne_iff_ne.mpr ?_
      rintro rfl
      exact free _ ((all _ _).mp listed)
    have found := Overlay.lookup_of_unique ((assets names bytes).mpr asset) fun other listed =>
      Except.ok.inj (((assets names other).mp listed).holds.symm.trans asset.holds)
    rw [none, found, Option.none_or]

include all assets in
private theorem leaves_of_mem (h : (names, bytes) ∈ files ++ copies) :
    ∃ other, Leaves last set source options names other := by
  rcases List.mem_append.mp h with listed | listed
  · exact ⟨bytes, .generated ((all names bytes).mp listed)⟩
  · by_cases taken : ∃ other, (names, other) ∈ generated set source options
    · exact taken.imp fun other => .generated
    · exact ⟨bytes, .asset (not_exists.mp taken) ((assets names bytes).mp listed)⟩

include sound all assets in
private theorem output_of_wrote (tree : start.IsTree) (apart : Walk.Apart last set.directory site)
    (made_along : start.MadeAlong options.output.ancestors made)
    (wrote : Wrote site [["pages", "instruction"]] (files ++ copies) made last) :
    Output set source options site start last := by
  have member {names bytes} (h : Leaves last set source options names bytes) :
      (names, bytes) ∈ files ++ copies := by
    obtain ⟨front, rest, same, -⟩ :=
      List.lookup_eq_some_iff.mp (lookup_of_leaves sound all assets h)
    exact same ▸ by simp
  have others : Changes
      (fun location => NeedsDirectory last set source options site location ∨
        ∃ path ∈ options.output.ancestors, last.Leads path location)
      (fun location => ∃ names bytes, Leaves last set source options names bytes ∧
        location = site ++ names) start last := by
    refine .trans (made_along.changes.mono ?_ fun _ none => none.elim) (wrote.changes.mono ?_ ?_)
    · rintro location - ⟨path, listed, leads⟩
      exact .inr ⟨path, listed, leads.of_changes wrote.changes⟩
    · rintro location - ⟨names, listed, between⟩
      rcases List.mem_cons.mp listed with rfl | listed
      · exact .inl (.pages between)
      · obtain ⟨file, member, rfl⟩ := List.mem_map.mp listed
        obtain ⟨bytes, h⟩ := leaves_of_mem all assets member
        exact .inl (.parent h between)
    · rintro location ⟨file, listed, same⟩
      obtain ⟨bytes, h⟩ := leaves_of_mem all assets listed
      exact ⟨file.1, bytes, h, same⟩
  refine ⟨?_, ?_, ?_, others, wrote.tree (made_along.tree tree)⟩
  · exact fun names bytes h => wrote.contents names bytes (lookup_of_leaves sound all assets h)
  · refine fun names bytes => hasAsset_of_changes apart others ?_
    rintro location ⟨names, bytes, -, rfl⟩
    exact List.prefix_append _ _
  · intro location needed
    refine wrote.there location ?_
    cases needed with
    | pages between => exact ⟨_, List.mem_cons_self, between⟩
    | parent h between =>
      exact ⟨_, List.mem_cons_of_mem _ (List.mem_map_of_mem (member h)), between⟩

end Overlay

theorem pagesPath_child (name : String) : options.pagesPath.child (Page.fileName name) =
    options.output.append ["pages", "instruction", Page.fileName name] :=
  Path.append_child (by decide) (by simp) (isNormal_fileName name)

theorem pages_eq {forms : List Form} :
    forms.zip ((forms.map fun form => Page.fileName form.name).map options.pagesPath.child) =
      forms.map fun form =>
        (form, options.output.append ["pages", "instruction", Page.fileName form.name]) := by
  simp only [List.map_map, Function.comp_def, pagesPath_child]
  induction forms with
  | nil => rfl
  | cons form rest ih => rw [List.map_cons, List.map_cons, List.zip_cons_cons, ih]

theorem prepare_eq_ok {fs : FileSystem} (h : RenderPlan.prepare source options fs = .ok plan) :
    TemplateSet.load fs options.root options.template = .ok plan.set ∧ Page.Sound source.forms ∧
      plan.pages = source.forms.map fun form =>
        (form, options.output.append ["pages", "instruction", Page.fileName form.name]) := by
  unfold RenderPlan.prepare at h
  cases loaded : TemplateSet.load fs options.root options.template with
  | error e => simp [loaded, bind, Except.bind] at h
  | ok set =>
    cases named : Page.fileNames source.forms with
    | error e => simp [loaded, named, bind, Except.bind] at h
    | ok names =>
      obtain ⟨sound, rfl⟩ := Page.fileNames_eq_ok named
      simp only [loaded, named, bind, Except.bind, pure, Except.pure, Except.ok.injEq] at h
      subst h
      exact ⟨rfl, sound, pages_eq⟩

section Writes

variable {fs fs' : FileSystem} {site : Location} (site_open : fs.Open options.output site)
include site_open

private theorem writeRecord_ok {record : GenerationRecord} {path : Path}
    (h : writeRecord options.output record fs = .ok path fs') :
    Wrote site [] [([".castui", "metadata.json"], record.write.toUTF8)] fs fs' := by
  obtain ⟨⟨⟩, fs₁, written, done⟩ := Effect.bind_eq_ok.mp h
  cases done
  have place : GenerationRecord.place options.output =
      options.output.append [".castui", "metadata.json"] := Path.child_append (by decide)
  rw [place] at written
  exact RenderStep.write_below site_open (by decide) (by simp) written

private theorem writePages_ok {pages : List (Form × Path)}
    (named : pages = source.forms.map fun form =>
      (form, options.output.append ["pages", "instruction", Page.fileName form.name]))
    (h : pages.forM (fun page => (RenderStep.write page.2
      (set.page.render ((options.context source).withForm page.1))).run) fs = .ok () fs') :
    ∃ files, Wrote site [] files fs fs' ∧ ∀ names bytes, (names, bytes) ∈ files ↔
      ∃ form ∈ source.forms, names = ["pages", "instruction", Page.fileName form.name] ∧
        bytes = (set.page.render ((options.context source).withForm form)).toUTF8 := by
  obtain ⟨files, wrote, lists⟩ := Wrote.forM fs'
    (fun page : Form × Path => ["pages", "instruction", Page.fileName page.1.name])
    (P := fun page bytes =>
      bytes = (set.page.render ((options.context source).withForm page.1)).toUTF8)
    (fun page listed fs fs' site_open written => by
      rw [named] at listed
      obtain ⟨form, -, rfl⟩ := List.mem_map.mp listed
      exact ⟨_, RenderStep.write_below site_open (page_normal form.name) (by simp) written,
        fun _ => rfl⟩)
    site_open h
  obtain ⟨all, only⟩ := lists Changes.refl
  refine ⟨files, wrote, fun names bytes => ⟨fun listed => ?_, ?_⟩⟩
  · obtain ⟨page, listed', same, holds⟩ := only _ listed
    rw [named] at listed'
    obtain ⟨form, member, rfl⟩ := List.mem_map.mp listed'
    exact ⟨form, member, same, holds⟩
  · rintro ⟨form, member, rfl, rfl⟩
    obtain ⟨bytes, listed, rfl⟩ := all _ (named ▸ List.mem_map_of_mem member)
    exact listed

end Writes

theorem copyAssets_adds (directory output : Path) :
    Effect.Keeps (copyAssets directory output) FileSystem.Adds :=
  .bind FileSystem.Adds.trans (Walk.walk_adds fun _ => RenderStep.run_adds _) fun _ =>
    .pure FileSystem.Adds.refl _

/-- The steps of a run on the files, with the files after each of them. -/
private structure Steps (source : RenderSource) (options : RenderOptions) (plan : RenderPlan)
    (before made copied shelled opened paged after : FileSystem) : Prop where
  making : (RenderStep.makeDirectory options.output).run before = .ok () made
  copying : ∃ count, copyAssets plan.set.directory options.output made = .ok count copied
  shell : (RenderStep.write (options.output.append ["pages", "_app.tsx"])
    (plan.set.shell.render (options.context source))).run copied = .ok () shelled
  opening : (RenderStep.makeDirectory (options.output.append ["pages", "instruction"])).run
    shelled = .ok () opened
  paging : plan.pages.forM (fun page => (RenderStep.write page.2
    (plan.set.page.render ((options.context source).withForm page.1))).run) opened = .ok () paged
  recording : ∃ path, writeRecord options.output (options.record source) paged = .ok path after

private theorem writeTree_inv (h : writeTree source options plan before = .ok summary after) :
    summary.record = options.record source ∧ summary.pages = plan.pages.map (·.2) ∧
      ∃ made copied shelled opened paged,
        Steps source options plan before.files made copied shelled opened paged after.files := by
  unfold writeTree at h
  obtain ⟨⟨⟩, w₁, making, h⟩ := Effect.bind_eq_ok.mp h
  obtain ⟨count, w₂, copying, h⟩ := Effect.bind_eq_ok.mp h
  obtain ⟨⟨⟩, w₃, reported, h⟩ := Effect.bind_eq_ok.mp h
  obtain ⟨⟨⟩, w₄, shell, h⟩ := Effect.bind_eq_ok.mp h
  obtain ⟨⟨⟩, w₅, reported₅, h⟩ := Effect.bind_eq_ok.mp h
  obtain ⟨⟨⟩, w₆, opening, h⟩ := Effect.bind_eq_ok.mp h
  obtain ⟨⟨⟩, w₇, paging, h⟩ := Effect.bind_eq_ok.mp h
  obtain ⟨⟨⟩, w₈, reported₈, h⟩ := Effect.bind_eq_ok.mp h
  obtain ⟨path, w₉, recording, h⟩ := Effect.bind_eq_ok.mp h
  obtain ⟨⟨⟩, w₁₀, reported₁₀, h⟩ := Effect.bind_eq_ok.mp h
  cases h
  have making := (Effect.onFiles_eq_ok.mp making).1
  have copying := (Effect.onFiles_eq_ok.mp copying).1
  have shell := (Effect.onFiles_eq_ok.mp shell).1
  have opening := (Effect.onFiles_eq_ok.mp opening).1
  have paging := Effect.forM_onFiles paging
  have recording := (Effect.onFiles_eq_ok.mp recording).1
  rw [Effect.report_eq_ok reported] at shell
  rw [Effect.report_eq_ok reported₅] at opening
  rw [Effect.report_eq_ok reported₈, ← Effect.report_eq_ok reported₁₀] at recording
  exact ⟨rfl, rfl, _, _, _, _, _, making, ⟨count, copying⟩, shell, opening, paging,
    ⟨path, recording⟩⟩

theorem writeTree_pages (h : writeTree source options plan before = .ok summary after) :
    summary.pages = plan.pages.map (·.2) := (writeTree_inv h).2.1

theorem writeTree_writeRecord (h : writeTree source options plan before = .ok summary after) :
    summary.record = options.record source ∧ ∃ paged path,
      writeRecord options.output (options.record source) paged = .ok path after.files := by
  obtain ⟨record, -, _, _, _, _, paged, steps⟩ := writeTree_inv h
  obtain ⟨path, recording⟩ := steps.recording
  exact ⟨record, paged, path, recording⟩

section Steps

variable {start made copied shelled opened paged finish : FileSystem} {site : Location}
  (steps : Steps source options plan start made copied shelled opened paged finish)
include steps

private theorem steps_grow : made.Grows finish := by
  obtain ⟨count, copying⟩ := steps.copying
  obtain ⟨path, recording⟩ := steps.recording
  have shell := (RenderStep.run_adds _).ok _ _ _ steps.shell
  have opening := (RenderStep.run_adds _).ok _ _ _ steps.opening
  have paging := (Effect.Keeps.forM FileSystem.Adds.refl FileSystem.Adds.trans _
    fun _ _ => RenderStep.run_adds _).ok _ _ _ steps.paging
  have recording := (Effect.Keeps.bind FileSystem.Adds.trans (RenderStep.run_adds _) fun _ =>
    .pure FileSystem.Adds.refl _).ok _ _ _ recording
  refine Changes.trans ((copyAssets_adds _ _).ok _ _ _ copying).grows ?_
  exact (((shell.trans _ _ _ opening).trans _ _ _ paging).trans _ _ _ recording).grows

private theorem steps_wrote (site_open : copied.Open options.output site)
    (named : plan.pages = source.forms.map fun form =>
      (form, options.output.append ["pages", "instruction", Page.fileName form.name])) :
    ∃ files, Wrote site [["pages", "instruction"]] files copied finish ∧
      ∀ names bytes,
        (names, bytes) ∈ files ↔ (names, bytes) ∈ generated plan.set source options := by
  obtain ⟨path, recording⟩ := steps.recording
  have shell := RenderStep.write_below site_open (by decide) (by simp) steps.shell
  have site_open := site_open.of_changes shell.changes
  have directory := RenderStep.makeDirectory_below site_open (by decide) (by simp) steps.opening
  have site_open := site_open.of_changes directory.changes
  obtain ⟨files, pages, listed⟩ := writePages_ok site_open named steps.paging
  have site_open := site_open.of_changes pages.changes
  have record := writeRecord_ok site_open recording
  refine ⟨_, ((shell.trans directory).trans pages).trans record, fun names bytes => ?_⟩
  rw [mem_generated]
  simp only [List.mem_append, List.mem_singleton, Prod.mk.injEq, listed, List.nil_append]

end Steps

/-- The generated files are there after a run with their contents, if the output directory had no
links when the assets were copied. -/
theorem writeTree_generated (prepared : RenderPlan.prepare source options before.files = .ok plan)
    (h : writeTree source options plan before = .ok summary after) :
    ∃ site made count copied, before.files.MadeAlong options.output.ancestors made ∧
      made.Leads options.output site ∧ after.files.Leads options.output site ∧
      copyAssets plan.set.directory options.output made = .ok count copied ∧
      (copied.Open options.output site →
        ∀ names bytes, (names, bytes) ∈ generated plan.set source options →
          ∃ mode, after.files.get? (site ++ names) = some (.file bytes mode)) := by
  obtain ⟨-, -, made, copied, shelled, opened, paged, steps⟩ := writeTree_inv h
  obtain ⟨-, sound, named⟩ := prepare_eq_ok prepared
  obtain ⟨made_along, there⟩ :=
    FileAction.makeDirectories_ok (Effect.adaptExcept_eq_ok.mp steps.making)
  obtain ⟨site, leads⟩ := FileSystem.exists_leads there
  obtain ⟨count, copying⟩ := steps.copying
  refine ⟨site, made, count, copied, made_along, leads, leads.of_changes (steps_grow steps),
    copying, fun site_open names bytes listed => ?_⟩
  obtain ⟨files, wrote, all⟩ := steps_wrote steps site_open named
  refine wrote.contents names bytes (Overlay.lookup_of_unique ((all names bytes).mpr listed) ?_)
  exact fun other listed' => generated_unique sound listed ((all names other).mp listed')

private theorem writeTree_output (tree : before.files.IsTree)
    (prepared : RenderPlan.prepare source options before.files = .ok plan)
    (h : writeTree source options plan before = .ok summary after) :
    summary.record = options.record source ∧ ∃ site, after.files.Leads options.output site ∧
      (before.files.LinkFree site → Walk.Apart after.files plan.set.directory site →
        Output plan.set source options site before.files after.files) := by
  obtain ⟨record, -, made, copied, shelled, opened, paged, steps⟩ := writeTree_inv h
  obtain ⟨-, sound, named⟩ := prepare_eq_ok prepared
  obtain ⟨made_along, there⟩ :=
    FileAction.makeDirectories_ok (Effect.adaptExcept_eq_ok.mp steps.making)
  obtain ⟨site, leads⟩ := FileSystem.exists_leads there
  refine ⟨record, site, leads.of_changes (steps_grow steps), fun free apart => ?_⟩
  have site_open : made.Open options.output site := ⟨leads, free.of_changes made_along.changes⟩
  obtain ⟨count, copying⟩ := steps.copying
  obtain ⟨copies, wrote_copies, assets⟩ :=
    copyAssets_ok apart site_open (made_along.tree tree) copying
  obtain ⟨files, wrote_files, all⟩ :=
    steps_wrote steps (site_open.of_changes wrote_copies.changes) named
  exact output_of_wrote sound all (assets wrote_files.within) tree apart made_along
    (wrote_copies.trans wrote_files)

end Render

variable {now : Instant} {choices : GenerateOptions} {outcome : GenerateOutcome}
  {before after : Workspace}

private theorem load_of_mapError {fs : FileSystem} {program : Program}
    {f : DescriptorError → GenerateError}
    (h : (Program.load fs choices.descriptor).mapError f = .ok program) :
    Program.load fs choices.descriptor = .ok program := by
  cases found : Program.load fs choices.descriptor with
  | error e => simp [found, Except.mapError] at h
  | ok other =>
    rw [found] at h
    cases h
    rfl

theorem generate_inv (h : generate now choices before = .ok outcome after) :
    ∃ program plan rendered, Program.load before.files choices.descriptor = .ok program ∧
      RenderPlan.prepare (.ofProgram program) (choices.forRender now) before.files = .ok plan ∧
      rendered.files = before.files ∧
      Render.writeTree (.ofProgram program) (choices.forRender now) plan rendered =
        .ok outcome.summary after := by
  obtain ⟨program, w₁, queried, h₁⟩ := Effect.bind_eq_ok.mp h
  obtain ⟨loaded, rfl⟩ := Effect.query_eq_ok.mp queried
  obtain ⟨⟨⟩, w₂, parsed, h₂⟩ := Effect.bind_eq_ok.mp h₁
  obtain ⟨⟨⟩, w₃, mapped, h₃⟩ := Effect.bind_eq_ok.mp h₂
  obtain ⟨summary, w₄, rendered, h₄⟩ := Effect.bind_eq_ok.mp h₃
  cases h₄
  have same := (Effect.report_eq_ok mapped).trans (Effect.report_eq_ok parsed)
  obtain ⟨plan, w₅, prepared, written⟩ :=
    Effect.bind_eq_ok.mp (Effect.adaptExcept_eq_ok.mp rendered)
  obtain ⟨prepared, rfl⟩ := Effect.query_eq_ok.mp prepared
  exact ⟨program, plan, w₅, load_of_mapError loaded, same ▸ prepared, same, written⟩

theorem generate_error_cases {e : GenerateError}
    (h : generate now choices before = .error e after) :
    (∃ cause, e = .descriptor choices.descriptor cause ∧ after = before) ∨
      ∃ program rendered cause, Program.load before.files choices.descriptor = .ok program ∧
        e = .render cause ∧ rendered.files = before.files ∧
        render (.ofProgram program) (choices.forRender now) rendered = .error cause after := by
  rcases Effect.bind_eq_error.mp h with queried | ⟨program, w₁, queried, h₁⟩
  · obtain ⟨loaded, rfl⟩ := Effect.query_eq_error.mp queried
    refine .inl ?_
    cases found : Program.load after.files choices.descriptor with
    | ok program => simp [found, Except.mapError] at loaded
    | error cause =>
      rw [found] at loaded
      cases loaded
      exact ⟨cause, rfl, rfl⟩
  obtain ⟨loaded, rfl⟩ := Effect.query_eq_ok.mp queried
  rcases Effect.bind_eq_error.mp h₁ with reported | ⟨⟨⟩, w₂, parsed, h₂⟩
  · cases reported
  rcases Effect.bind_eq_error.mp h₂ with reported | ⟨⟨⟩, w₃, mapped, h₃⟩
  · cases reported
  have same := (Effect.report_eq_ok mapped).trans (Effect.report_eq_ok parsed)
  rcases Effect.bind_eq_error.mp h₃ with rendered | ⟨summary, w₄, -, done⟩
  · obtain ⟨cause, ended, rfl⟩ := Effect.adaptExcept_eq_error.mp rendered
    exact .inr ⟨program, w₃, cause, load_of_mapError loaded, rfl, same, ended⟩
  · cases done

private theorem generate_grows (h : generate now choices before = .ok outcome after) :
    before.files.Grows after.files := by
  obtain ⟨program, plan, rendered, -, -, same, written⟩ := generate_inv h
  obtain ⟨-, -, made, copied, shelled, opened, paged, steps⟩ := Render.writeTree_inv written
  rw [same] at steps
  exact Changes.trans ((RenderStep.run_adds _).ok _ _ _ steps.making).grows
    (Render.steps_grow steps)

theorem TemplateSet.load_eq_ok {fs : FileSystem} {root : Path} {name : String}
    {set : TemplateSet} : TemplateSet.load fs root name = .ok set ↔
      TemplateSet.resolve fs root name = .ok set.directory ∧
        TemplateSet.loadFile fs set.directory name shellFile shellKeys = .ok set.shell ∧
        TemplateSet.loadFile fs set.directory name pageFile pageKeys = .ok set.page := by
  constructor
  · intro h
    obtain ⟨directory, resolved, h₁⟩ := except_bind_eq_ok.mp h
    obtain ⟨shell, first, h₂⟩ := except_bind_eq_ok.mp h₁
    obtain ⟨page, second, h₃⟩ := except_bind_eq_ok.mp h₂
    cases h₃
    exact ⟨resolved, first, second⟩
  · rintro ⟨resolved, first, second⟩
    exact except_bind_eq_ok.mpr ⟨_, resolved,
      except_bind_eq_ok.mpr ⟨_, first, except_bind_eq_ok.mpr ⟨_, second, rfl⟩⟩⟩

theorem TemplateSet.resolve_eq_ok {fs : FileSystem} {root directory : Path} {name : String} :
    TemplateSet.resolve fs root name = .ok directory ↔ directory = root.join (.ofText name) ∧
      (Path.ofText name).singleName?.isSome = true ∧ fs.isDirectory directory = true := by
  rw [TemplateSet.resolve]
  by_cases found : ((Path.ofText name).singleName?.isSome &&
      fs.isDirectory (root.join (.ofText name))) = true
  · rw [if_pos found]
    rw [Bool.and_eq_true] at found
    constructor
    · intro h
      cases h
      exact ⟨rfl, found⟩
    · rintro ⟨rfl, -⟩
      rfl
  · rw [if_neg found]
    constructor
    · intro h
      cases h
    · rintro ⟨rfl, single, here⟩
      exact absurd (Bool.and_eq_true _ _ ▸ ⟨single, here⟩) found

theorem TemplateSet.directory_of_load {fs : FileSystem} {root : Path} {name : String}
    {set : TemplateSet} (h : TemplateSet.load fs root name = .ok set) :
    set.directory = root.join (.ofText name) :=
  (TemplateSet.resolve_eq_ok.mp (TemplateSet.load_eq_ok.mp h).1).1

theorem sampleFiles_linkFree {more : List (Location × Entry)} {location : Location}
    (plain : ∀ e ∈ more, location <+: e.1 → ∀ path, e.2 ≠ .link path) :
    (sampleFiles more).LinkFree location := by
  refine .of_entries ?_
  simpa [sampleFiles] using plain

/-- A generation that succeeds has left its output, and nothing else, when there are no links at the
output directory or below it, and no path below the template set leads into the output directory or
to a directory around it. -/
theorem generate_leaves_output (tree : before.files.IsTree)
    (free : ∀ site, after.files.Leads choices.output site → before.files.LinkFree site)
    (apart : ∀ set site,
      TemplateSet.load before.files choices.templates choices.template = .ok set →
      after.files.Leads choices.output site → Walk.Apart after.files set.directory site)
    (h : generate now choices before = .ok outcome after) :
    ∃ program set site, Program.load before.files choices.descriptor = .ok program ∧
      TemplateSet.load before.files choices.templates choices.template = .ok set ∧
      after.files.Leads choices.output site ∧
      outcome.summary.record = (choices.forRender now).record (.ofProgram program) ∧
      Render.Output set (.ofProgram program) (choices.forRender now) site
        before.files after.files := by
  obtain ⟨program, plan, rendered, loaded, prepared, same, written⟩ := generate_inv h
  rw [← same] at tree free apart prepared ⊢
  obtain ⟨record, site, leads, output⟩ := Render.writeTree_output tree prepared written
  have loaded_set := (Render.prepare_eq_ok prepared).1
  exact ⟨program, plan.set, site, same ▸ loaded, loaded_set, leads, record,
    output (free site leads) (apart plan.set site loaded_set leads)⟩

theorem generate_leaves_output_of_plain_set :
    let before : Workspace := ⟨sampleFiles [(["w", "out", "logo.svg"], .file "old".toUTF8 false),
      (["w", "templates", "mini", "logo.svg"], .file "new".toUTF8 true)], []⟩
    ∃ outcome after, generate ⟨0, 0⟩ sampleChoices before = .ok outcome after ∧
      ∃ program set site, Program.load before.files sampleChoices.descriptor = .ok program ∧
        TemplateSet.load before.files sampleChoices.templates sampleChoices.template = .ok set ∧
        after.files.Leads sampleChoices.output site ∧
        outcome.summary.record = (sampleChoices.forRender ⟨0, 0⟩).record (.ofProgram program) ∧
        Render.Output set (.ofProgram program) (sampleChoices.forRender ⟨0, 0⟩) site
          before.files after.files := by
  intro before
  have succeeds :
      Effect.endsWell (generate ⟨0, 0⟩ sampleChoices before) (fun _ => true) = true := by
    decide +kernel
  obtain ⟨outcome, after, h, -⟩ := Effect.endsWell_iff.mp succeeds
  have grows := generate_grows h
  have tree : before.files.IsTree := .of_entries (by decide)
  have no_links (location : Location) : before.files.LinkFree location :=
    sampleFiles_linkFree (by simp)
  have output : before.files.Leads sampleChoices.output ["w", "out"] := rfl
  have root : before.files.Leads ⟨["templates", "mini"]⟩ ["w", "templates", "mini"] := rfl
  refine ⟨outcome, after, h, generate_leaves_output tree (fun site _ => no_links site) ?_ h⟩
  intro set site loaded leads
  obtain rfl := leads.unique (output.of_changes grows)
  have directory : set.directory = ⟨["templates", "mini"]⟩ :=
    TemplateSet.directory_of_load loaded
  rw [directory]
  exact .of_linkFree (root.of_changes grows) ((no_links _).of_changes grows) (by decide)

/-- A link of the template set into the output directory: the file behind it is copied onto itself,
and ends up empty. -/
theorem linked_asset_is_emptied :
    let files := sampleFiles [(["w", "out", "x.txt"], .file "hello".toUTF8 false),
      (["w", "templates", "mini", "x.txt"], .link ⟨["..", "..", "out", "x.txt"]⟩)]
    files.Leads sampleChoices.output ["w", "out"] ∧ files.LinkFree ["w", "out"] ∧
      files.Leads ⟨["templates", "mini"]⟩ ["w", "templates", "mini"] ∧
      TemplateSet.isAsset ⟨⟨["templates", "mini", "x.txt"]⟩, ["x.txt"]⟩ = true ∧
      files.readBytes ⟨["templates", "mini", "x.txt"]⟩ = .ok "hello".toUTF8 ∧
      ∃ outcome after, generate ⟨0, 0⟩ sampleChoices ⟨files, []⟩ = .ok outcome after ∧
        after.files.readBytes ⟨["out", "x.txt"]⟩ = .ok ByteArray.empty := by
  intro files
  have emptied : Effect.endsWell (generate ⟨0, 0⟩ sampleChoices ⟨files, []⟩) (fun after => decide
      ((after.files.readBytes ⟨["out", "x.txt"]⟩).toOption = some ByteArray.empty)) = true := by
    decide +kernel
  obtain ⟨outcome, after, h, read⟩ := Effect.endsWell_iff.mp emptied
  refine ⟨rfl, ?_, rfl, by decide, rfl, outcome, after, h, ?_⟩
  · exact sampleFiles_linkFree (by simp)
  · cases found : after.files.readBytes ⟨["out", "x.txt"]⟩ with
    | error e => simp [found, Except.toOption] at read
    | ok bytes => simpa [found, Except.toOption] using read

end UiScaffold
