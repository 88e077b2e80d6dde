import UiScaffold.Proofs.FileSystem.Visits
import UiScaffold.Proofs.Render.Confinement
import UiScaffold.Proofs.Render.Writing

/-!
What a run spares.

Nothing keeps the output directory apart from the directory of the template set, so a run may write
into its own sources. However the two lie to each other, it writes nothing but the files that it
leaves: whatever is found elsewhere, in the set or not, is found there again. A template is never
among these files, so the templates of a set outlast a run into the very directory of the set.
-/

set_option autoImplicit false
set_option relaxedAutoImplicit false

namespace UiScaffold

open Effect (Keeps OnFiles)
open FileSystem (Changes Grows WorksAt)

namespace Render

def Places (set : TemplateSet) (source : RenderSource) (options : RenderOptions) (fs : FileSystem)
    (path : Path) : Prop :=
  ∃ names bytes, Leaves fs set source options names bytes ∧ path = options.output.append names

structure Spares (set : TemplateSet) (source : RenderSource) (options : RenderOptions)
    (before after : FileSystem) : Prop where
  works : WorksAt (fun _ => True) (Places set source options) before after
  tree : before.IsTree → after.IsTree

variable {set : TemplateSet} {source : RenderSource} {options : RenderOptions} {plan : RenderPlan}
  {before middle after : FileSystem} {names : List String} {bytes : ByteArray}

private theorem hasAsset_of_grows (grows : before.Grows after)
    (asset : set.HasAsset before names bytes) : ∃ bytes', set.HasAsset after names bytes' := by
  obtain ⟨mode, status⟩ := FileSystem.readBytes_eq_ok.mp asset.holds
  obtain ⟨location, located, there⟩ := FileSystem.status_eq_ok.mp status
  obtain ⟨bytes', mode', there'⟩ := grows.file there
  have holds := FileSystem.readBytes_eq_ok.mpr ⟨mode', FileSystem.status_eq_ok.mpr
    ⟨location, FileSystem.locate_of_changes grows located, there'⟩⟩
  exact ⟨bytes', asset.normal, asset.filled, asset.copied, holds⟩

private theorem places_stable : FileSystem.Stable (Places set source options) := by
  rintro before after path grows ⟨names, bytes, leaves, rfl⟩
  cases leaves with
  | generated listed => exact ⟨names, bytes, .generated listed, rfl⟩
  | asset free asset =>
    obtain ⟨bytes', asset'⟩ := hasAsset_of_grows grows asset
    exact ⟨names, bytes', .asset free asset', rfl⟩

private theorem places_of_asset (asset : set.HasAsset after names bytes) :
    Places set source options after (options.output.append names) := by
  by_cases taken : ∃ other, (names, other) ∈ generated set source options
  · obtain ⟨other, listed⟩ := taken
    exact ⟨names, other, .generated listed, rfl⟩
  · exact ⟨names, bytes, .asset (not_exists.mp taken) asset, rfl⟩

namespace Spares

private theorem refl (fs : FileSystem) : Spares set source options fs fs := ⟨.refl fs, id⟩

private theorem trans (before middle after : FileSystem)
    (first : Spares set source options before middle)
    (second : Spares set source options middle after) : Spares set source options before after :=
  ⟨WorksAt.trans places_stable before middle after first.works second.works,
    second.tree ∘ first.tree⟩

private theorem grows (before after : FileSystem) (h : Spares set source options before after) :
    before.Grows after := h.works.grows

end Spares

private theorem makeDirectory_spares (path : Path) :
    Keeps (RenderStep.makeDirectory path).run (Spares set source options) :=
  (RenderStep.ensureDirectory_worksAt.both (RenderStep.run_tree (.makeDirectory path))).mono
    fun _ _ ⟨works, tree⟩ => ⟨works.mono (fun _ _ => trivial) fun _ => id, tree⟩

private theorem write_spares {text : String}
    (listed : (names, text.toUTF8) ∈ generated set source options) :
    Keeps (RenderStep.write (options.output.append names) text).run
      (Spares set source options) := by
  refine ((RenderStep.write_worksAt text).both (RenderStep.run_tree _)).mono
    fun before after ⟨works, tree⟩ => ⟨works.mono (fun _ _ => trivial) ?_, tree⟩
  rintro path rfl
  exact ⟨names, _, .generated listed, rfl⟩

private theorem copy_spares (asset : Asset) :
    Keeps (RenderStep.copy asset.path (options.output.append asset.relative)).run
      fun before after => Walk.Visited before set.directory TemplateSet.isAsset asset →
        Spares set source options before after := by
  have trans (s t u : FileSystem)
      (first : Walk.Visited s set.directory TemplateSet.isAsset asset →
        Spares set source options s t)
      (second : Walk.Visited t set.directory TemplateSet.isAsset asset →
        Spares set source options t u)
      (visited : Walk.Visited s set.directory TemplateSet.isAsset asset) :
      Spares set source options s u := by
    have spared := first visited
    exact Spares.trans s t u spared (second (visited.later spared.works.grows))
  refine .bind trans ?_ fun _ => .adaptExcept _ ?_
  · have along := RenderStep.makeParent_along (options.output.append asset.relative)
    exact along.mono fun s t made _ =>
      ⟨made.worksAt.mono (fun _ _ => trivial) fun _ => id, made.tree⟩
  · have copying : Keeps (FileAction.copy asset.path (options.output.append asset.relative))
        (WorksAt (fun _ => True) fun _ => (· = options.output.append asset.relative)) :=
      FileAction.copy_worksAt
    refine (copying.both (FileAction.copy_tree.both FileAction.copy_reads)).mono
      fun before after ⟨works, tree, reads⟩ visited => ?_
    rcases reads with rfl | ⟨entry, status⟩
    · exact Spares.refl after
    · -- The asset is a file now, so it still is one afterwards.
      obtain ⟨contents, mode, rfl⟩ := visited.file before entry Changes.refl status
      have holds := FileSystem.readBytes_eq_ok.mpr ⟨mode, status⟩
      rw [visited.spelled] at holds
      have asset' : set.HasAsset before asset.relative contents :=
        ⟨visited.normal, visited.filled, visited.spelled ▸ visited.wanted, holds⟩
      obtain ⟨bytes, asset'⟩ := hasAsset_of_grows works.grows asset'
      refine ⟨works.mono (fun _ => id) ?_, tree⟩
      rintro path rfl
      exact places_of_asset asset'

private theorem copyAssets_spares :
    Keeps (copyAssets set.directory options.output) fun before after =>
    before.IsTree → Spares set source options before after := by
  refine .map _ (Walk.walk_visits Spares.refl Spares.trans Spares.grows (fun _ _ h => h.tree) ?_)
  exact copy_spares

private theorem fillOutput_spares (named : plan.pages = source.forms.map fun form =>
    (form, options.output.append ["pages", "instruction", Page.fileName form.name])) :
    Keeps (fillOutput source options plan) (OnFiles fun before after =>
      before.IsTree → Spares plan.set source options before after) := by
  have refl (s : FileSystem) (_ : s.IsTree) : Spares plan.set source options s s := Spares.refl s
  have trans (w w' w'' : Workspace)
      (first : w.files.IsTree → Spares plan.set source options w.files w'.files)
      (second : w'.files.IsTree → Spares plan.set source options w'.files w''.files)
      (tree : w.files.IsTree) : Spares plan.set source options w.files w''.files := by
    have spared := first tree
    exact Spares.trans _ _ _ spared (second (spared.tree tree))
  refine fillOutput_parts (Q := fun x => Keeps x (OnFiles fun before after =>
      before.IsTree → Spares plan.set source options before after)) named
    ⟨.pure fun w => refl w.files, .bind trans, .report refl⟩ (.onFiles copyAssets_spares) ?_ ?_
  · exact .onFiles ((makeDirectory_spares _).mono fun _ _ spared _ => spared)
  · exact fun names text listed => .onFiles ((write_spares listed).mono fun _ _ spared _ => spared)

private theorem writeTree_spares (named : plan.pages = source.forms.map fun form =>
    (form, options.output.append ["pages", "instruction", Page.fileName form.name])) :
    Keeps (writeTree source options plan) (OnFiles fun before after =>
      before.IsTree → Spares plan.set source options before after) := by
  rw [writeTree_eq]
  refine .bind ?_ (.onFiles ((makeDirectory_spares _).mono fun _ _ spared _ => spared))
    fun _ => fillOutput_spares named
  intro w w' w'' first second tree
  have spared := first tree
  exact Spares.trans _ _ _ spared (second (spared.tree tree))

end Render

private theorem render_spares (source : RenderSource) (options : RenderOptions) :
    Keeps (render source options) (OnFiles fun before after =>
      ∀ set, TemplateSet.load before options.root options.template = .ok set → before.IsTree →
        Render.Spares set source options before after) := by
  refine .bind_via
    (S := fun w plan w' => w' = w ∧ RenderPlan.prepare source options w.files = .ok plan)
    (T := fun plan w w' => RenderPlan.prepare source options w.files = .ok plan →
      w.files.IsTree → Render.Spares plan.set source options w.files w'.files) ?_ ?_ ?_ ?_
  · intro w plan w' h
    obtain ⟨prepared, rfl⟩ := Effect.query_eq_ok.mp h
    exact ⟨rfl, prepared⟩
  · intro w e w' h set _ _
    obtain ⟨-, rfl⟩ := Effect.query_eq_error.mp h
    exact Render.Spares.refl _
  · intro plan
    constructor
    · intro w summary w' h prepared
      exact (Render.writeTree_spares (Render.prepare_eq_ok prepared).2.2).ok w summary w' h
    · intro w e w' h prepared
      exact (Render.writeTree_spares (Render.prepare_eq_ok prepared).2.2).error w e w' h
  · rintro w plan w' w'' ⟨rfl, prepared⟩ spares set loaded tree
    cases loaded.symm.trans (Render.prepare_eq_ok prepared).1
    exact spares prepared tree

section Leaves

variable {fs : FileSystem} {set : TemplateSet} {source : RenderSource} {options : RenderOptions}
  {names : List String} {bytes : ByteArray}

namespace Render

private theorem Leaves.normal (h : Leaves fs set source options names bytes) :
    (∀ name ∈ names, Path.isNormal name = true) ∧ names ≠ [] := by
  cases h with
  | generated listed => exact normal_of_mem_generated listed
  | asset _ asset => exact ⟨asset.normal, asset.filled⟩

private theorem extension?_fileName (name : String) :
    Path.extension? (Page.fileName name) ≠ some TemplateSet.extension := by
  have spelled : (Page.fileName name).toList.reverse =
      ['x', 's', 't', '.'] ++ name.toList.reverse := by
    simp [Page.fileName, Page.extension]
  unfold Path.extension?
  simp only [spelled]
  split
  · simp [TemplateSet.extension]
  · simp

private theorem Leaves.not_template (h : Leaves fs set source options names bytes) :
    names.getLast?.bind Path.extension? ≠ some TemplateSet.extension := by
  cases h with
  | generated listed =>
    rcases mem_generated.mp listed with ⟨rfl, -⟩ | ⟨form, -, rfl, -⟩ | ⟨rfl, -⟩
    · decide
    · exact extension?_fileName form.name
    · decide
  | asset _ asset => simpa [TemplateSet.isAsset] using asset.copied

end Render

end Leaves

variable {source : RenderSource} {options : RenderOptions} {set : TemplateSet} {before : Workspace}

/-- However a run ends, and wherever its output directory lies, it writes no files but those that it
leaves. So a file of the template set is there afterwards with the same contents and the same mode,
unless the path of such a file leads to it. In an output directory without links these are the files
below it with the names of a file of the run, and no template is among them. -/
theorem render_spares_sources (tree : before.files.IsTree)
    (loaded : TemplateSet.load before.files options.root options.template = .ok set) :
    let after := (Effect.final (render source options before)).files
    Changes (fun _ => True)
      (fun location => ∃ names bytes, Render.Leaves after set source options names bytes ∧
        after.Leads (options.output.append names) location) before.files after ∧
    (∀ names contents mode,
      before.files.status (set.directory.down names) = .ok (.file contents mode) →
      after.status (set.directory.down names) = .ok (.file contents mode) ∨
        ∃ names' bytes location, Render.Leaves after set source options names' bytes ∧
          after.Leads (options.output.append names') location ∧
          after.Leads (set.directory.down names) location) ∧
    ∀ site, after.Leads options.output site → before.files.LinkFree site →
      ∀ location entry, before.files.get? location = some entry →
        (after.get? location = some entry ∨ ∃ names bytes,
          Render.Leaves after set source options names bytes ∧ location = site ++ names) ∧
        (location.getLast?.bind Path.extension? = some TemplateSet.extension →
          after.get? location = some entry) := by
  intro after
  have spares : Render.Spares set source options before.files after :=
    (render_spares source options).final before set loaded tree
  have changes : Changes (fun _ => True)
      (fun location => ∃ names bytes, Render.Leaves after set source options names bytes ∧
        after.Leads (options.output.append names) location) before.files after := by
    refine Changes.mono spares.works (fun _ _ _ => trivial) ?_
    rintro location ⟨path, ⟨names, bytes, leaves, rfl⟩, leads⟩
    exact ⟨names, bytes, leaves, leads⟩
  refine ⟨changes, ?_, ?_⟩
  · intro names contents mode found
    by_contra not
    obtain ⟨lost, away⟩ := not_or.mp not
    refine lost (FileSystem.status_of_changes changes found ?_)
    rintro location leads ⟨names', bytes, leaves, leads'⟩
    exact away ⟨names', bytes, location, leaves, leads', leads.of_changes changes⟩
  · intro site leads free location entry found
    have kept : after.get? location = some entry ∨ ∃ names bytes,
        Render.Leaves after set source options names bytes ∧ location = site ++ names := by
      by_cases written : ∃ names bytes, Render.Leaves after set source options names bytes ∧
          after.Leads (options.output.append names) location
      · obtain ⟨names, bytes, leaves, leads'⟩ := written
        obtain ⟨normal, filled⟩ := leaves.normal
        exact .inr ⟨names, bytes, leaves, (FileSystem.leads_below normal filled leads
          (free.of_changes changes) leads').1⟩
      · exact .inl (changes.kept written found)
    refine ⟨kept, fun template => kept.resolve_right ?_⟩
    rintro ⟨names, bytes, leaves, rfl⟩
    refine leaves.not_template ?_
    rwa [List.getLast?_append_of_ne_nil _ leaves.normal.2] at template

def ownOptions : RenderOptions := { sampleOptions with output := ⟨["templates", "mini"]⟩ }

/-- The template of the app shell outlasts a run into its own directory. -/
theorem render_spares_sources_of_own_directory :
    let before : Workspace := ⟨sampleFiles [(["w", "templates", "mini", "a.txt"],
      .file "hello".toUTF8 false)], []⟩
    let shell := ["w", "templates", "mini", "pages", "_app.tsx.tmpl"]
    before.files.IsTree ∧ (∃ set,
      TemplateSet.load before.files ownOptions.root ownOptions.template = .ok set) ∧
      before.files.get? shell = some (.file "\x7b\x7bprogramId\x7d\x7d".toUTF8 false) ∧
      (Effect.final (render sampleSource ownOptions before)).files.get? shell =
        some (.file "\x7b\x7bprogramId\x7d\x7d".toUTF8 false) := by
  intro before shell
  have tree : before.files.IsTree := .of_entries (by decide)
  have accepted : (TemplateSet.load before.files ownOptions.root
      ownOptions.template).toOption.isSome = true := by decide +kernel
  obtain ⟨set, loaded⟩ := Option.isSome_iff_exists.mp accepted
  have loaded := except_toOption_eq_some.mp loaded
  have free : before.files.LinkFree ["w", "templates", "mini"] :=
    sampleFiles_linkFree (by simp)
  have output : before.files.Leads ownOptions.output ["w", "templates", "mini"] := rfl
  obtain ⟨changes, -, spared⟩ :=
    @render_spares_sources sampleSource ownOptions set before tree loaded
  have there : before.files.get? shell = _ := rfl
  exact ⟨tree, ⟨set, loaded⟩, there,
    (spared _ (output.of_changes changes) free shell _ there).2 (by decide)⟩

/-- A run into the directory of its template set copies an asset onto itself and leaves it
empty. -/
theorem asset_of_own_directory_is_emptied :
    let before : Workspace := ⟨sampleFiles [(["w", "templates", "mini", "a.txt"],
      .file "hello".toUTF8 false)], []⟩
    before.files.readBytes ⟨["templates", "mini", "a.txt"]⟩ = .ok "hello".toUTF8 ∧
      ∃ summary after, render sampleSource ownOptions before = .ok summary after ∧
        after.files.readBytes ⟨["templates", "mini", "a.txt"]⟩ = .ok ByteArray.empty := by
  intro before
  have emptied : Effect.endsWell (render sampleSource ownOptions before) (fun after => decide
      ((after.files.readBytes ⟨["templates", "mini", "a.txt"]⟩).toOption =
        some ByteArray.empty)) = true := by
    decide +kernel
  obtain ⟨summary, after, h, read⟩ := Effect.endsWell_iff.mp emptied
  exact ⟨rfl, summary, after, h, except_toOption_eq_some.mp (of_decide_eq_true read)⟩

end UiScaffold
