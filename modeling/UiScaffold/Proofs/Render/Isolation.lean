import UiScaffold.Proofs.FileSystem.SameBut
import UiScaffold.Proofs.Render.Confinement
import UiScaffold.Proofs.Render.Placeholders

/-!
What a change of the input can reach.

Two runs of one template set into one output, for forms of the same names, do the same steps in the
same order. They end alike, and what they leave differs in generated files only, of which the texts
differ. So a form that is changed under its name changes its own page and nothing else. The files of
the app shell and of the pages hold just what the templates give.
-/

set_option autoImplicit false
set_option relaxedAutoImplicit false

namespace UiScaffold

open Effect (Together SameNews)
open FileSystem (SameBut)

namespace Render

/-- Two runs of one template set into one output, for forms of the same names. -/
structure Comparable (source source' : RenderSource) (options options' : RenderOptions) : Prop where
  root : options.root = options'.root
  template : options.template = options'.template
  output : options.output = options'.output
  names : source.forms.map Form.name = source'.forms.map Form.name

/-- The file of a generated text that is not the same in two runs. -/
inductive Altered (set : TemplateSet) (source source' : RenderSource)
    (options options' : RenderOptions) : Path → Prop
  | shell : set.shell.render (options.context source) ≠
      set.shell.render (options'.context source') →
      Altered set source source' options options' options.shellPath
  | page {form form' : Form} : (form, form') ∈ source.forms.zip source'.forms →
      set.page.render ((options.context source).withForm form) ≠
        set.page.render ((options'.context source').withForm form') →
      Altered set source source' options options'
        (options.pagesPath.child (Page.fileName form.name))
  | record : options.record source ≠ options'.record source' →
      Altered set source source' options options' (GenerationRecord.place options.output)

/-- Two summaries tell of the same files, and each of the record of its run. -/
structure Corresponds (source source' : RenderSource) (options options' : RenderOptions)
    (summary summary' : RenderSummary) : Prop where
  copied : summary.copied = summary'.copied
  shell : summary.shell = summary'.shell
  pages : summary.pages = summary'.pages
  recordPath : summary.recordPath = summary'.recordPath
  record : summary.record = options.record source
  record' : summary'.record = options'.record source'

variable {source source' : RenderSource} {options options' : RenderOptions}

namespace Comparable

variable (h : Comparable source source' options options')
include h

private theorem shellPath_eq : options.shellPath = options'.shellPath := by
  rw [RenderOptions.shellPath, h.output, RenderOptions.shellPath]

private theorem pagesPath_eq : options.pagesPath = options'.pagesPath := by
  rw [RenderOptions.pagesPath, h.output, RenderOptions.pagesPath]

end Comparable

private theorem names_eq_iff {forms forms' : List Form} :
    forms.map Form.name = forms'.map Form.name ↔
      List.Forall₂ (fun form form' => form.name = form'.name) forms forms' := by
  rw [← List.forall₂_eq_eq_eq, List.forall₂_map_left_iff, List.forall₂_map_right_iff]

private theorem zip_names (h : source.forms.map Form.name = source'.forms.map Form.name) :
    List.Forall₂ (fun form form' => form.name = form'.name ∧
      (form, form') ∈ source.forms.zip source'.forms) source.forms source'.forms := by
  obtain ⟨long, each⟩ := List.forall₂_iff_zip.mp (names_eq_iff.mp h)
  exact List.forall₂_iff_zip.mpr ⟨long, fun member => ⟨each member, member⟩⟩

private theorem fileNames_congr {forms forms' : List Form}
    (h : forms.map Form.name = forms'.map Form.name) :
    Page.fileNames forms = Page.fileNames forms' := by
  suffices ∀ seen, Page.fileNamesAfter seen forms = Page.fileNamesAfter seen forms' from this []
  rw [names_eq_iff] at h
  induction h with
  | nil => exact fun _ => rfl
  | cons same _ ih =>
    intro seen
    rw [Page.fileNamesAfter, Page.fileNamesAfter, same, ih]

structure PlansAgree (source source' : RenderSource) (options : RenderOptions)
    (plan plan' : RenderPlan) : Prop where
  set : plan.set = plan'.set
  pages : List.Forall₂ (fun page page' => page.2 = page'.2 ∧
    page.2 = options.pagesPath.child (Page.fileName page.1.name) ∧
    (page.1, page'.1) ∈ source.forms.zip source'.forms) plan.pages plan'.pages

private theorem prepare_matches (h : Comparable source source' options options') (fs : FileSystem) :
    Matches (PlansAgree source source' options) (RenderPlan.prepare source options fs)
      (RenderPlan.prepare source' options' fs) := by
  unfold RenderPlan.prepare
  rw [← h.root, ← h.template, ← h.pagesPath_eq, ← fileNames_congr h.names]
  cases TemplateSet.load fs options.root options.template with
  | error e => exact .error e
  | ok set =>
    cases named : Page.fileNames source.forms with
    | error e => exact .error e
    | ok names =>
      have own := (Page.fileNames_eq_ok named).2
      have other := (Page.fileNames_eq_ok (fileNames_congr h.names ▸ named)).2
      have pages : source.forms.zip (names.map options.pagesPath.child) = _ := own ▸ pages_eq
      have pages' : source'.forms.zip (names.map options.pagesPath.child) = _ := other ▸ pages_eq
      refine .ok ⟨rfl, ?_⟩
      simp only [pages, pages', List.forall₂_map_left_iff, List.forall₂_map_right_iff]
      refine (zip_names h.names).imp fun form form' paired => ?_
      exact ⟨by rw [paired.1], (pagesPath_child form.name).symm, paired.2⟩

section Steps

variable {paths : Path → Prop}

private theorem writePage_together {template : Template} {context context' : Context}
    {form form' : Form} {path : Path} {w w' : Workspace} (related : SameNews (SameBut paths) w w')
    (differ : template.render (context.withForm form) ≠ template.render (context'.withForm form') →
      paths path) :
    Together Eq (SameNews (SameBut paths)) (writePage template context form path w)
      (writePage template context' form' path w') := by
  refine (Together.onFiles related (RenderStep.write_together related.files differ)).bind ?_
  rintro ⟨⟩ ⟨⟩ s t - related
  exact Together.report _ related

private theorem writeRecord_together {output : Path} {record record' : GenerationRecord}
    {fs fs' : FileSystem} (h : SameBut paths fs fs')
    (differ : record ≠ record' → paths (GenerationRecord.place output)) :
    Together Eq (SameBut paths) (writeRecord output record fs)
      (writeRecord output record' fs') := by
  refine (RenderStep.write_together h fun other => differ ?_).bind
    fun _ _ s t _ related => .ok rfl related
  rintro rfl
  exact other rfl

end Steps

private theorem writeTree_together {plan plan' : RenderPlan} (w : Workspace)
    (h : Comparable source source' options options')
    (agree : PlansAgree source source' options plan plan') :
    Together (Corresponds source source' options options')
      (SameNews (SameBut (Altered plan.set source source' options options')))
      (writeTree source options plan w) (writeTree source' options' plan' w) := by
  have refl (w : Workspace) : SameNews
      (SameBut (Altered plan.set source source' options options')) w w := ⟨.refl w.files, rfl⟩
  unfold writeTree
  simp only
  rw [← h.output, ← h.template, ← h.shellPath_eq, ← h.pagesPath_eq, ← agree.set,
    ← agree.pages.length_eq]
  -- Nothing is different up to the app shell.
  refine .after refl fun _ made _ => .after refl fun copied start _ => ?_
  refine (Together.report _ (refl start)).bind fun _ _ s t _ related => ?_
  refine (Together.onFiles related (RenderStep.write_together related.files .shell)).bind
    fun _ _ s t _ related => ?_
  refine (Together.report _ related).bind fun _ _ s t _ related => ?_
  refine (Together.onFiles related (RenderStep.ensureDirectory_together _ related.files)).bind
    fun _ _ s t _ related => ?_
  refine (Together.forM agree.pages ?_ related).bind fun _ _ s t _ related => ?_
  · rintro ⟨form, path⟩ ⟨form', path'⟩ s t ⟨same, place, paired⟩ related
    dsimp only at same place paired
    subst same place
    exact writePage_together related fun other => .page paired other
  refine (Together.report _ related).bind fun _ _ s t _ related => ?_
  refine (Together.onFiles related (writeRecord_together related.files .record)).bind
    fun path _ s t same related => ?_
  subst same
  refine (Together.report _ related).bind fun _ _ s t _ related => .ok ?_ related
  have pages : plan.pages.map (·.2) = plan'.pages.map (·.2) := by
    rw [← List.forall₂_eq_eq_eq, List.forall₂_map_left_iff, List.forall₂_map_right_iff]
    exact agree.pages.imp fun _ _ paired => paired.1
  exact ⟨rfl, rfl, pages, rfl, rfl, rfl⟩

private theorem render_together (w : Workspace) (h : Comparable source source' options options') :
    Together (Corresponds source source' options options')
      (SameNews (SameBut fun path => ∃ set,
        TemplateSet.load w.files options.root options.template = .ok set ∧
          Altered set source source' options options' path))
      (render source options w) (render source' options' w) := by
  refine Together.query (prepare_matches h w.files) ⟨.refl w.files, rfl⟩ ?_
  intro plan plan' prepared agree
  have loaded := (prepare_eq_ok prepared).1
  refine (writeTree_together w h agree).imp (fun _ _ => id) fun _ _ left => ?_
  exact left.imp fun _ _ same => same.mono fun path altered => ⟨plan.set, loaded, altered⟩

private theorem render_changed_form (w : Workspace) (source : RenderSource)
    (options : RenderOptions)
    {before after : List Form} {form form' : Form} (split : source.forms = before ++ form :: after)
    (same : form.name = form'.name) :
    Together Eq (SameNews (SameBut (· = options.pagesPath.child (Page.fileName form.name))))
      (render source options w)
      (render { source with forms := before ++ form' :: after } options w) := by
  have names : source.forms.map Form.name = (before ++ form' :: after).map Form.name := by
    simp only [split, List.map_append, List.map_cons, same]
  refine (render_together w ⟨rfl, rfl, rfl, names⟩).imp ?_ fun _ _ left =>
    left.imp fun _ _ same => same.mono ?_
  · rintro ⟨_, _, _, _, _⟩ ⟨_, _, _, _, _⟩ ⟨rfl, rfl, rfl, rfl, record, record'⟩
    cases record
    cases record'
    rfl
  · rintro path ⟨set, -, altered⟩
    cases altered with
    | shell differs => exact absurd rfl differs
    | record differs => exact absurd rfl differs
    | @page other other' paired differs =>
      -- Only in the place of the changed form can the two of a pair differ.
      rw [split, List.zip_append rfl, List.zip_cons_cons, List.mem_append, List.mem_cons] at paired
      have unchanged (forms : List Form) (paired : (other, other') ∈ forms.zip forms) : False := by
        have equal : List.Forall₂ Eq forms forms := by rw [List.forall₂_eq_eq_eq]
        cases (List.forall₂_iff_zip.mp equal).2 paired
        exact differs rfl
      rcases paired with front | pair | back
      · exact (unchanged before front).elim
      · cases pair
        rfl
      · exact (unchanged after back).elim

/-- The files of the app shell and of the pages, when the output directory is at a site, hold what
the templates of a set give. -/
structure HoldsTexts (set : TemplateSet) (source : RenderSource) (options : RenderOptions)
    (site : Location) (fs : FileSystem) : Prop where
  shell : ∃ mode, fs.get? (site ++ ["pages", "_app.tsx"]) =
    some (.file (set.shell.render (options.context source)).toUTF8 mode)
  pages : ∀ form ∈ source.forms, ∃ mode,
    fs.get? (site ++ ["pages", "instruction", Page.fileName form.name]) =
      some (.file (set.page.render ((options.context source).withForm form)).toUTF8 mode)

private theorem render_holds_texts {before after : Workspace} {summary : RenderSummary}
    (tree : before.files.IsTree)
    (free : ∀ site, after.files.Leads options.output site → before.files.LinkFree site)
    (h : render source options before = .ok summary after) :
    ∃ set site, TemplateSet.load before.files options.root options.template = .ok set ∧
      after.files.Leads options.output site ∧ HoldsTexts set source options site after.files := by
  obtain ⟨plan, w, queried, written⟩ := Effect.bind_eq_ok.mp h
  obtain ⟨prepared, rfl⟩ := Effect.query_eq_ok.mp queried
  obtain ⟨site, made, count, copied, made_along, leads, leads', copying, holds⟩ :=
    writeTree_generated prepared written
  -- The copies put no links below the output directory, so it is still without them after these.
  have site_open : made.Open options.output site :=
    ⟨leads, (free site leads').of_changes made_along.changes⟩
  have builds : FileSystem.Builds options.output made copied :=
    (copyAssets_builds plan.set.directory options.output).ok _ _ _ copying
  have holds := holds (site_open.of_changes
    (builds.confined site site_open (made_along.tree tree)).1)
  refine ⟨plan.set, site, (prepare_eq_ok prepared).1, leads', ?_, fun form member => ?_⟩
  · exact holds _ _ (mem_generated.mpr (.inr (.inr ⟨rfl, rfl⟩)))
  · exact holds _ _ (mem_generated.mpr (.inr (.inl ⟨form, member, rfl, rfl⟩)))

end Render

/-- Substituted values stay where their placeholders are. In the app shell and in every page of a
template set that loads, each placeholder is replaced by one complete value of the content of its
key, so that two renderings differ only where contents do. After a run these renderings are in the
files of the app shell and of the pages. Two runs of a set differ only in the files of texts that
differ, and a form that is changed under its name changes its own page only. -/
theorem substituted_values_stay_in_place :
    (∀ (fs : FileSystem) (root : Path) (name : String) (set : TemplateSet),
      TemplateSet.load fs root name = .ok set → ∃ shell page : Cutting,
        TemplateSet.IsCut fs (set.directory.join TemplateSet.shellFile) TemplateSet.shellKeys
          shell ∧
        TemplateSet.IsCut fs (set.directory.join TemplateSet.pageFile) TemplateSet.pageKeys page ∧
        (∀ source options, shell.Holds (Content.ofShell source options) (options.context source)
          (set.shell.render (options.context source))) ∧
        (∀ source options form, page.Holds (Content.ofPage source options form)
          ((options.context source).withForm form)
          (set.page.render ((options.context source).withForm form))) ∧
        (∀ source options source' options', shell.DifferWithin
          (fun key => Content.ofShell source options key ≠ Content.ofShell source' options' key)
          (set.shell.render (options.context source))
          (set.shell.render (options'.context source'))) ∧
        ∀ source options form source' options' form', page.DifferWithin
          (fun key => Content.ofPage source options form key ≠
            Content.ofPage source' options' form' key)
          (set.page.render ((options.context source).withForm form))
          (set.page.render ((options'.context source').withForm form'))) ∧
    (∀ (w : Workspace) (source source' : RenderSource) (options options' : RenderOptions),
      Render.Comparable source source' options options' →
        Together (Render.Corresponds source source' options options')
          (SameNews (SameBut fun path => ∃ set,
            TemplateSet.load w.files options.root options.template = .ok set ∧
              Render.Altered set source source' options options' path))
          (render source options w) (render source' options' w)) ∧
    (∀ (w : Workspace) (source : RenderSource) (options : RenderOptions) (before after : List Form)
      (form form' : Form), source.forms = before ++ form :: after → form.name = form'.name →
        Together Eq (SameNews (SameBut (· = options.pagesPath.child (Page.fileName form.name))))
          (render source options w)
          (render { source with forms := before ++ form' :: after } options w)) ∧
    ∀ (before after : Workspace) (source : RenderSource) (options : RenderOptions)
      (summary : RenderSummary), before.files.IsTree →
        (∀ site, after.files.Leads options.output site → before.files.LinkFree site) →
        render source options before = .ok summary after → ∃ set site,
          TemplateSet.load before.files options.root options.template = .ok set ∧
            after.files.Leads options.output site ∧
            Render.HoldsTexts set source options site after.files := by
  refine ⟨?_, fun w _ _ _ _ => Render.render_together w, fun w source options _ _ _ _ =>
    Render.render_changed_form w source options, fun _ _ _ _ _ => Render.render_holds_texts⟩
  intro fs root name set loaded
  obtain ⟨-, first, second⟩ := TemplateSet.load_eq_ok.mp loaded
  obtain ⟨shell, cut, shell_filled⟩ := TemplateSet.cutting_of_loadFile first
  obtain ⟨page, cut', page_filled⟩ := TemplateSet.cutting_of_loadFile second
  have shells (source : RenderSource) (options : RenderOptions) :
      shell.Holds (Content.ofShell source options) (options.context source)
        (set.shell.render (options.context source)) := by
    refine ⟨shell_filled _, fun hole member => ?_⟩
    obtain ⟨held, content, value⟩ := Content.lookup_context (cut.known hole member)
    exact ⟨held, content, value, held.complete_write, held.write_ne_empty⟩
  have pages (source : RenderSource) (options : RenderOptions) (form : Form) :
      page.Holds (Content.ofPage source options form) ((options.context source).withForm form)
        (set.page.render ((options.context source).withForm form)) := by
    refine ⟨page_filled _, fun hole member => ?_⟩
    obtain ⟨held, content, value⟩ := Content.lookup_withForm (cut'.known hole member)
    exact ⟨held, content, value, held.complete_write, held.write_ne_empty⟩
  exact ⟨shell, page, cut, cut', shells, pages,
    fun source options source' options' =>
      (shells source options).differWithin (shells source' options'),
    fun source options form source' options' form' =>
      (pages source options form).differWithin (pages source' options' form')⟩

/-- A set of two templates, a program with a name full of quotes and braces, and a form with other
documentation. -/
theorem substituted_values_stay_in_place_of_hostile_name :
    let w : Workspace := ⟨sampleFiles [], []⟩
    let hostile : RenderSource :=
      { sampleSource with programName := "a\"b\\\n\x7b\x7bx\x7d\x7d", programId := "é\x00𝄞" }
    let mint' : Form := ⟨"mint", ["\"\x7d"], [], []⟩
    let burn : Form := ⟨"burn", [], [], []⟩
    (∃ set shell, TemplateSet.load w.files sampleOptions.root sampleOptions.template = .ok set ∧
      TemplateSet.IsCut w.files (set.directory.join TemplateSet.shellFile) TemplateSet.shellKeys
        shell ∧
      shell.Holds (Content.ofShell hostile sampleOptions) (sampleOptions.context hostile)
        (set.shell.render (sampleOptions.context hostile))) ∧
    Together (Render.Corresponds sampleSource hostile sampleOptions sampleOptions)
      (SameNews (SameBut fun path => ∃ set,
        TemplateSet.load w.files sampleOptions.root sampleOptions.template = .ok set ∧
          Render.Altered set sampleSource hostile sampleOptions sampleOptions path))
      (render sampleSource sampleOptions w) (render hostile sampleOptions w) ∧
    Together Eq (SameNews (SameBut (· = sampleOptions.pagesPath.child "mint.tsx")))
      (render sampleSource sampleOptions w)
      (render { sampleSource with forms := [mint', burn] } sampleOptions w) ∧
    ∃ summary after set site, render hostile sampleOptions w = .ok summary after ∧
      TemplateSet.load w.files sampleOptions.root sampleOptions.template = .ok set ∧
      after.files.Leads sampleOptions.output site ∧
      Render.HoldsTexts set hostile sampleOptions site after.files := by
  intro w hostile mint' burn
  refine ⟨?_, ?_, ?_, ?_⟩
  · have loads :
        (TemplateSet.load w.files sampleOptions.root sampleOptions.template).isOk = true := by
      decide +kernel
    cases loaded : TemplateSet.load w.files sampleOptions.root sampleOptions.template with
    | error e =>
      rw [loaded] at loads
      cases loads
    | ok set =>
      obtain ⟨shell, page, cut, -, holds, -⟩ :=
        substituted_values_stay_in_place.1 w.files _ _ set loaded
      exact ⟨set, shell, rfl, cut, holds hostile sampleOptions⟩
  · exact substituted_values_stay_in_place.2.1 w _ _ _ _ ⟨rfl, rfl, rfl, rfl⟩
  · exact substituted_values_stay_in_place.2.2.1 w sampleSource sampleOptions [] [burn] _ mint' rfl
      rfl
  · have succeeds :
        Effect.endsWell (render hostile sampleOptions w) (fun _ => true) = true := by
      decide +kernel
    obtain ⟨summary, after, h, -⟩ := Effect.endsWell_iff.mp succeeds
    have tree : w.files.IsTree := .of_entries (by decide)
    have no_links (location : Location) : w.files.LinkFree location :=
      sampleFiles_linkFree (by simp)
    obtain ⟨set, site, holds⟩ := substituted_values_stay_in_place.2.2.2 w after hostile
      sampleOptions summary tree (fun site _ => no_links site) h
    exact ⟨summary, after, set, site, h, holds⟩

end UiScaffold
