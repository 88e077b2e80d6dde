import UiScaffold.Proofs.FileSystem.SameBut
import UiScaffold.Proofs.Render.Confinement
import UiScaffold.Proofs.Render.Pages

/-!
Runs whose pages are written by several workers.

Workers take the pages in any order. When all of them are written the record follows; when one
fails, those that no worker has begun may be left out, and there is no record. However the workers
go about it, the run succeeds where the run in the order of the forms does, with the same summary
and the same files. Where that one fails it fails too, and what the two leave differs in files of
pages only.
-/

set_option autoImplicit false
set_option relaxedAutoImplicit false

namespace UiScaffold

open Effect (attempt Together OnFiles)
open FileSystem (Matches SameBut)

namespace FileSystem

variable {fs other : FileSystem}

theorem Matches.sameBut (h : fs.Matches other) : SameBut (fun _ => False) fs other :=
  ⟨h.workingDirectory, fun location => h.entry location ▸ .same,
    fun location differs => absurd (h.entry location) differs⟩

theorem SameBut.matches (h : SameBut (fun _ => False) fs other) : fs.Matches other := by
  refine ⟨h.workingDirectory, fun location => ?_⟩
  by_contra differs
  obtain ⟨path, none, -⟩ := h.elsewhere location differs
  exact none

end FileSystem

namespace Render

def beginTree (source : RenderSource) (options : RenderOptions) (plan : RenderPlan) :
    Work RenderError Nat := do
  Work.onFiles (RenderStep.makeDirectory options.output).run
  openPages source options plan

/-- How a run may end whose pages are written by several workers, in some order. They stop at any
time after a page has failed, and the run ends with the error of such a page. -/
inductive MayEnd (source : RenderSource) (options : RenderOptions) (plan : RenderPlan)
    (w : Workspace) : EStateM.Result RenderError Workspace RenderSummary → Prop
  | early {e : RenderError} {after : Workspace} : beginTree source options plan w = .error e after →
      MayEnd source options plan w (.error e after)
  | stopped {copied : Nat} {opened : Workspace} {order : List (Form × Path)} {page : Form × Path}
      {e : RenderError} : beginTree source options plan w = .ok copied opened →
      order.Subperm plan.pages →
      (page, .error e) ∈ (attempt (placePage source options plan) order opened).1 →
      MayEnd source options plan w
        (.error e (attempt (placePage source options plan) order opened).2)
  | closed {copied : Nat} {opened : Workspace} {order : List (Form × Path)} :
      beginTree source options plan w = .ok copied opened → order.Perm plan.pages →
      (∀ told ∈ (attempt (placePage source options plan) order opened).1, told.2 = .ok ()) →
      MayEnd source options plan w
        (closePages source options plan copied
          (attempt (placePage source options plan) order opened).2)

variable {source : RenderSource} {options : RenderOptions} {plan : RenderPlan}
  {w opened : Workspace} {copied : Nat} {site : Location}
  {result : EStateM.Result RenderError Workspace RenderSummary}

private theorem writeTree_phases : writeTree source options plan =
    beginTree source options plan >>= fillPages source options plan := by
  rw [writeTree_eq]
  simp only [beginTree, fillOutput, bind_assoc]

private theorem writeTree_mayEnd :
    MayEnd source options plan w (writeTree source options plan w) := by
  rw [writeTree_phases]
  change MayEnd source options plan w (EStateM.bind _ _ w)
  unfold EStateM.bind
  cases begun : beginTree source options plan w with
  | error e after => exact .early begun
  | ok copied opened =>
    change MayEnd source options plan w (EStateM.bind _ _ opened)
    unfold EStateM.bind
    obtain ⟨finished, broken⟩ :=
      @Effect.attempt_of_forM _ _ _ (placePage source options plan) plan.pages opened
    cases paging : plan.pages.forM (placePage source options plan) opened with
    | ok _ paged =>
      obtain ⟨well, rfl⟩ := finished paged paging
      exact .closed begun (.refl _) well
    | error e paged =>
      obtain ⟨order, short, ⟨page, told⟩, rfl⟩ := broken e paged paging
      exact .stopped begun short.sublist.subperm told

section Begun

private theorem pages_reached {fs fs' : FileSystem}
    (h : (RenderStep.makeDirectory options.pagesPath).run fs = .ok () fs') :
    fs'.Reaches options.pagesPath := by
  obtain ⟨-, empty | root | there⟩ :=
    FileAction.makeDirectories_reaches (Effect.adaptExcept_eq_ok.mp h)
  · have way := (Path.of_isEmpty empty).2
    rw [RenderOptions.pagesPath, Path.append_way (by decide) (by simp)] at way
    simp at way
  · have up : options.pagesPath.parent = some (options.output.append ["pages"]) :=
      @Path.parent_append options.output ["pages"] "instruction" (by decide) (by simp)
    rw [up] at root
    cases root
  · exact there

private theorem beginTree_ok (tree : w.files.IsTree)
    (begun : beginTree source options plan w = .ok copied opened) :
    ∃ site, opened.files.Leads options.output site ∧
      (w.files.LinkFree site → opened.files.Open options.output site) ∧
      opened.files.Reaches options.pagesPath := by
  obtain ⟨⟨⟩, made, making, filling⟩ := Effect.bind_eq_ok.mp begun
  obtain ⟨made_along, there⟩ := FileAction.makeDirectories_ok
    (Effect.adaptExcept_eq_ok.mp (Effect.onFiles_eq_ok.mp making).1)
  obtain ⟨site, leads⟩ := FileSystem.exists_leads there
  have builds : FileSystem.Builds options.output made.files opened.files :=
    openPages_builds.ok _ _ _ filling
  refine ⟨site, leads.of_changes builds.grows, fun free => ?_, ?_⟩
  · have site_open : made.files.Open options.output site :=
      ⟨leads, free.of_changes made_along.changes⟩
    exact site_open.of_changes
      (builds.confined site site_open (made_along.tree tree)).1
  · obtain ⟨count, w₂, -, h⟩ := Effect.bind_eq_ok.mp filling
    obtain ⟨⟨⟩, w₃, -, h⟩ := Effect.bind_eq_ok.mp h
    obtain ⟨⟨⟩, w₄, -, h⟩ := Effect.bind_eq_ok.mp h
    obtain ⟨⟨⟩, w₅, -, h⟩ := Effect.bind_eq_ok.mp h
    obtain ⟨⟨⟩, w₆, opening, h⟩ := Effect.bind_eq_ok.mp h
    cases h
    exact pages_reached (Effect.onFiles_eq_ok.mp opening).1

end Begun

private theorem closePages_together {w w' : Workspace} (same : w.files.Matches w'.files) :
    Together Eq (OnFiles FileSystem.Matches) (closePages source options plan copied w)
      (closePages source options plan copied w') := by
  have news (event : Event) {s t : Workspace} (related : OnFiles (SameBut fun _ => False) s t) :
      Together Eq (OnFiles (SameBut fun _ => False)) ((Work.report event : Work RenderError Unit) s)
        ((Work.report event : Work RenderError Unit) t) := .ok rfl related
  have closed : Together Eq (OnFiles (SameBut fun _ => False))
      (closePages source options plan copied w) (closePages source options plan copied w') := by
    refine (news _ same.sameBut).bind fun _ _ s t _ related => ?_
    refine (Together.acting (V := Eq) ?_).bind fun path _ s t given related => ?_
    · exact (RenderStep.write_together related fun differs => absurd rfl differs).bind
        fun _ _ s t _ related => .ok rfl related
    subst given
    exact (news _ related).bind fun _ _ s t _ related => .ok rfl related
  exact closed.imp (fun _ _ => id) fun _ _ left => SameBut.matches left

section Endings

abbrev pagePlace (site : Location) (page : Form × Path) : Location :=
  site ++ ["pages", "instruction", Page.fileName page.1.name]

/-- How a run ends whose pages were begun, by what becomes of each page: it is closed when none of
them fails, and otherwise it has written some pages. -/
private inductive Ends (source : RenderSource) (options : RenderOptions) (plan : RenderPlan)
    (copied : Nat) (opened : FileSystem) (site : Location)
    (verdict : Form × Path → Except RenderError Bool) :
    EStateM.Result RenderError Workspace RenderSummary → Prop
  | closed {order : List (Form × Path)} {last : Workspace} :
      (∀ page ∈ plan.pages, ∃ mode, verdict page = .ok mode) → order.Perm plan.pages →
      Attempted opened (pagePlace site)
        (fun page => (plan.set.page.render ((options.context source).withForm page.1)).toUTF8)
        verdict order last.files →
      Ends source options plan copied opened site verdict
        (closePages source options plan copied last)
  | failed {order : List (Form × Path)} {last : Workspace} {page : Form × Path}
      {e cause : RenderError} :
      page ∈ plan.pages → verdict page = .error cause → order.Subperm plan.pages →
      Attempted opened (pagePlace site)
        (fun page => (plan.set.page.render ((options.context source).withForm page.1)).toUTF8)
        verdict order last.files →
      Ends source options plan copied opened site verdict (.error e last)

variable (prepared : RenderPlan.prepare source options w.files = .ok plan)
include prepared

private theorem exists_ends (site_open : opened.files.Open options.output site)
    (there : opened.files.Reaches options.pagesPath)
    (begun : beginTree source options plan w = .ok copied opened) :
    ∃ verdict, ∀ result, MayEnd source options plan w result →
      Ends source options plan copied opened.files site verdict result := by
  obtain ⟨-, sound, named⟩ := prepare_eq_ok prepared
  obtain ⟨verdict, runs⟩ := exists_verdicts plan.set.page (options.context source) sound site_open
    there
  rw [← named] at runs
  refine ⟨verdict, fun result h => ?_⟩
  cases h with
  | early failed =>
    rw [begun] at failed
    cases failed
  | @stopped copied' opened' order page e begun' part told =>
    cases begun.symm.trans begun'
    obtain ⟨logged, left⟩ := runs order part
    obtain ⟨other, listed, same⟩ := List.mem_map.mp (logged ▸ told)
    cases judged : verdict other with
    | ok mode => simp [judged, Except.map] at same
    | error cause => exact .failed (part.subset listed) judged part left
  | @closed copied' opened' order begun' perm well =>
    cases begun.symm.trans begun'
    obtain ⟨logged, left⟩ := runs order perm.subperm
    refine .closed (fun page listed => ?_) perm left
    have told := well (page, (verdict page).map fun _ => ())
      (logged ▸ List.mem_map_of_mem (perm.mem_iff.mpr listed))
    cases judged : verdict page with
    | ok mode => exact ⟨mode, rfl⟩
    | error e => simp [judged, Except.map] at told

private theorem Ends.agree {verdict : Form × Path → Except RenderError Bool}
    {result' : EStateM.Result RenderError Workspace RenderSummary} {start : FileSystem}
    (h : Ends source options plan copied start site verdict result)
    (h' : Ends source options plan copied start site verdict result') :
    Together Eq (OnFiles FileSystem.Matches) result result' ∨
      ∃ e e' last last', result = .error e last ∧ result' = .error e' last' ∧
        ∀ location, last.files.get? location = last'.files.get? location ∨
          ∃ form ∈ source.forms,
            location = site ++ ["pages", "instruction", Page.fileName form.name] := by
  cases h with
  | closed fine perm left =>
    cases h' with
    | closed _ perm' left' =>
      exact .inl (closePages_together (left.matches (perm.trans perm'.symm) left'))
    | failed listed judged _ _ =>
      obtain ⟨mode, good⟩ := fine _ listed
      cases good.symm.trans judged
  | failed listed judged part left =>
    cases h' with
    | closed fine _ _ =>
      obtain ⟨mode, good⟩ := fine _ listed
      cases good.symm.trans judged
    | failed _ _ part' left' =>
      refine .inr ⟨_, _, _, _, rfl, rfl, fun location => ?_⟩
      by_cases placed : ∃ page ∈ plan.pages, location = pagePlace site page
      · obtain ⟨page, among, rfl⟩ := placed
        rw [(prepare_eq_ok prepared).2.2] at among
        obtain ⟨form, member, rfl⟩ := List.mem_map.mp among
        exact .inr ⟨form, member, rfl⟩
      · have away {order : List (Form × Path)} (part : order.Subperm plan.pages) :
            location ∉ order.map (pagePlace site) := by
          rintro among
          obtain ⟨page, member, rfl⟩ := List.mem_map.mp among
          exact placed ⟨page, part.subset member, rfl⟩
        exact .inl ((left.other location (away part)).trans
          (left'.other location (away part')).symm)

end Endings

/-- Two ways to write the pages of a run end alike: both well, with the same summary and the same
files, or both in failure, with trees that differ in files of pages only. -/
private theorem MayEnd.agree (tree : w.files.IsTree)
    (prepared : RenderPlan.prepare source options w.files = .ok plan)
    (free : ∀ site,
      (Effect.final (writeTree source options plan w)).files.Leads options.output site →
        w.files.LinkFree site)
    {result' : EStateM.Result RenderError Workspace RenderSummary}
    (h : MayEnd source options plan w result) (h' : MayEnd source options plan w result') :
    Together Eq (OnFiles FileSystem.Matches) result result' ∨
      ∃ e e' last last', result = .error e last ∧ result' = .error e' last' ∧
        ∃ site, (Effect.final (writeTree source options plan w)).files.Leads options.output site ∧
          ∀ location, last.files.get? location = last'.files.get? location ∨
            ∃ form ∈ source.forms,
              location = site ++ ["pages", "instruction", Page.fileName form.name] := by
  cases begun : beginTree source options plan w with
  | error e after =>
    have early {result : EStateM.Result RenderError Workspace RenderSummary}
        (h : MayEnd source options plan w result) : result = .error e after := by
      cases h with
      | early failed =>
        cases begun.symm.trans failed
        rfl
      | stopped begun' => cases begun.symm.trans begun'
      | closed begun' => cases begun.symm.trans begun'
    rw [early h, early h']
    exact .inl (.error ⟨rfl, fun _ => rfl⟩)
  | ok copied opened =>
    obtain ⟨site, leads, becomes_open, there⟩ := beginTree_ok tree begun
    have written : writeTree source options plan w =
        fillPages source options plan copied opened := by
      rw [writeTree_phases]
      change EStateM.bind _ _ w = _
      rw [EStateM.bind, begun]
    have grows : opened.files.Grows
        (Effect.final (fillPages source options plan copied opened)).files :=
      ((fillPages_builds (prepare_eq_ok prepared).2.2 copied).final opened).grows
    rw [written] at free ⊢
    have leads' := leads.of_changes grows
    obtain ⟨verdict, ends⟩ := exists_ends prepared (becomes_open (free site leads')) there begun
    refine ((ends result h).agree prepared (ends result' h')).imp_right ?_
    rintro ⟨e, e', last, last', first, second, alike⟩
    exact ⟨e, e', last, last', first, second, site, leads', alike⟩

/-- Pages that are written in another order have the same outcomes and leave the same files, with
each page in its own place if all end well. A run may end in the way of the run that writes them in
the order of the forms; however it ends, it succeeds when that one does, with the same files and the
same summary, which has the pages in the order of the forms. When that one fails it fails, and the
two leave trees that differ in files of pages only. -/
theorem pages_in_any_order :
    (∀ (w : Workspace) (options : RenderOptions) (template : Template) (context : Context)
      (forms : List Form) (names : List String) (site : Location)
        (order order' : List (Form × Path)),
      Page.fileNames forms = .ok names → w.files.Open options.output site →
      w.files.isDirectory options.pagesPath = true →
      order.Perm (forms.zip (names.map options.pagesPath.child)) →
      order'.Perm (forms.zip (names.map options.pagesPath.child)) →
      let pages := forms.zip (names.map options.pagesPath.child)
      let step := fun page : Form × Path => writePage template context page.1 page.2
      (∀ page outcome, (page, outcome) ∈ (attempt step order w).1 ↔
        (page, outcome) ∈ (attempt step order' w).1) ∧
      (attempt step order w).2.files.Matches (attempt step order' w).2.files ∧
      (pages.map Prod.snd).Nodup ∧
      ((∀ told ∈ (attempt step order w).1, told.2 = .ok ()) →
        (∀ form ∈ forms, ∃ mode, (attempt step order w).2.files.get?
            (site ++ ["pages", "instruction", Page.fileName form.name]) =
          some (.file (template.render (context.withForm form)).toUTF8 mode)) ∧
        ∃ after, pages.forM step w = .ok () after ∧
          after.files.Matches (attempt step order w).2.files)) ∧
    ∀ (w : Workspace) (source : RenderSource) (options : RenderOptions) (plan : RenderPlan),
      w.files.IsTree → RenderPlan.prepare source options w.files = .ok plan →
      (∀ site, (Effect.final (render source options w)).files.Leads options.output site →
        w.files.LinkFree site) →
      MayEnd source options plan w (render source options w) ∧
      ∀ result, MayEnd source options plan w result →
        (∀ summary after, render source options w = .ok summary after →
          summary.pages = source.forms.map (fun form =>
            options.pagesPath.child (Page.fileName form.name)) ∧
          ∃ after', result = .ok summary after' ∧ after.files.Matches after'.files) ∧
        ∀ e after, render source options w = .error e after →
          ∃ e' after', result = .error e' after' ∧
            ∀ location, after.files.get? location = after'.files.get? location ∨
              ∃ site, after.files.Leads options.output site ∧ ∃ form ∈ source.forms,
                location = site ++ ["pages", "instruction", Page.fileName form.name] := by
  constructor
  · intro w options template context forms names site order order' named site_open there perm perm'
    obtain ⟨sound, rfl⟩ := Page.fileNames_eq_ok named
    have reached := FileSystem.reaches_of_isDirectory there
    rw [pages_eq] at perm perm' ⊢
    intro pages step
    obtain ⟨outcomes, left⟩ :=
      attempts_agree template context sound site_open reached perm.subperm (perm.trans perm'.symm)
    refine ⟨outcomes, left, nodup_pages sound, fun well => ⟨fun form member => ?_, ?_⟩⟩
    · exact placed_of_attempt sound site_open reached perm well member
    · exact forM_of_attempts sound site_open reached perm well
  intro w source options plan tree prepared free
  rw [render_of_prepared prepared] at free ⊢
  refine ⟨writeTree_mayEnd, fun result h => ?_⟩
  have agree := MayEnd.agree tree prepared free writeTree_mayEnd h
  constructor
  · intro summary after done
    rw [done] at agree
    refine ⟨?_, ?_⟩
    · rw [writeTree_pages done, (prepare_eq_ok prepared).2.2, List.map_map]
      exact List.map_congr_left fun form _ => (pagesPath_child form.name).symm
    · rcases agree with together | ⟨e, e', last, last', failed, -⟩
      · cases together with
        | ok given left =>
          subst given
          exact ⟨_, rfl, left⟩
      · cases failed
  · intro e after failed
    rw [failed] at agree
    rcases agree with together | ⟨e₁, e', last, last', same, ended, site, leads, alike⟩
    · cases together with
      | error left => exact ⟨e, _, rfl, fun location => .inl (left.entry location)⟩
    · cases same
      refine ⟨e', last', ended, fun location => (alike location).imp_right fun placed => ?_⟩
      exact ⟨site, leads, placed⟩

theorem pages_in_any_order_of_two :
    let w : Workspace := ⟨sampleFiles [(["w", "out", "pages"], .directory),
      (["w", "out", "pages", "instruction"], .directory),
      (["w", "out", "pages", "instruction", "burn.tsx"], .file "old".toUTF8 true)], []⟩
    ∃ plan copied opened summary after after',
      RenderPlan.prepare sampleSource sampleOptions w.files = .ok plan ∧
      beginTree sampleSource sampleOptions plan w = .ok copied opened ∧
      (∀ told ∈ (attempt (placePage sampleSource sampleOptions plan) plan.pages.reverse opened).1,
        told.2 = .ok ()) ∧
      render sampleSource sampleOptions w = .ok summary after ∧
      closePages sampleSource sampleOptions plan copied
          (attempt (placePage sampleSource sampleOptions plan) plan.pages.reverse opened).2 =
        .ok summary after' ∧
      after.files.Matches after'.files ∧
      summary.pages = ["mint.tsx", "burn.tsx"].map sampleOptions.pagesPath.child := by
  intro w
  have succeeds : Effect.endsWell (render sampleSource sampleOptions w) (fun _ => true) = true := by
    decide +kernel
  obtain ⟨summary, after, done, -⟩ := Effect.endsWell_iff.mp succeeds
  obtain ⟨plan, w', queried, written⟩ := Effect.bind_eq_ok.mp done
  obtain ⟨prepared, rfl⟩ := Effect.query_eq_ok.mp queried
  rw [writeTree_phases] at written
  obtain ⟨copied, opened, begun, filled⟩ := Effect.bind_eq_ok.mp written
  obtain ⟨⟨⟩, paged, paging, -⟩ := Effect.bind_eq_ok.mp filled
  have tree : w.files.IsTree := .of_entries (by decide)
  have no_links (location : Location) : w.files.LinkFree location :=
    sampleFiles_linkFree (by simp)
  have named : Page.fileNames sampleSource.forms = .ok ["mint.tsx", "burn.tsx"] := by decide
  have pages : plan.pages =
      sampleSource.forms.zip (["mint.tsx", "burn.tsx"].map sampleOptions.pagesPath.child) :=
    (prepare_eq_ok prepared).2.2
  -- In the order of the forms all pages end well, so they do in the order turned round.
  obtain ⟨site, -, becomes_open, there⟩ := beginTree_ok tree begun
  obtain ⟨outcomes, -⟩ := pages_in_any_order.1 opened sampleOptions plan.set.page
    (sampleOptions.context sampleSource) _ _ site _ _ named (becomes_open (no_links site))
    there.isDirectory (.refl _) (List.reverse_perm _)
  have well := (Effect.attempt_of_forM.1 paged paging).1
  rw [pages] at well
  have turned (told) (among : told ∈ (attempt (placePage sampleSource sampleOptions plan)
      plan.pages.reverse opened).1) : told.2 = .ok () := by
    rw [pages] at among
    exact well told ((outcomes _ _).mpr among)
  obtain ⟨listed, after', ended, same⟩ :=
    ((pages_in_any_order.2 w sampleSource sampleOptions plan tree prepared
      fun site _ => no_links site).2 _ (.closed begun (List.reverse_perm _) turned)).1 summary after
      done
  exact ⟨plan, copied, opened, summary, after, after', prepared, begun, turned, done, ended, same,
    listed⟩

end Render

end UiScaffold
