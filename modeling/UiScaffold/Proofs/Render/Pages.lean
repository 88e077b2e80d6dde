import Mathlib.Data.List.Perm.Subperm
import UiScaffold.Proofs.FileSystem.Missing
import UiScaffold.Proofs.Render.Output

/-!
Pages in any order.

The pages of a run may be written in any order, and a page that fails does not keep the others from
being written. What becomes of a page depends on what stands in its own place only. So every order
gives each page the same outcome, and leaves the same files.
-/

set_option autoImplicit false
set_option relaxedAutoImplicit false

namespace UiScaffold

namespace Effect

variable {ε σ α : Type}

/-- Takes steps one after the other, whatever becomes of them, and tells how each of them ended. -/
def attempt (step : α → EStateM ε σ Unit) : List α → σ → List (α × Except ε Unit) × σ
  | [], s => ([], s)
  | a :: rest, s =>
    let later := attempt step rest (final (step a s))
    ((a, answer (step a s)) :: later.1, later.2)

private theorem forM_of_attempt {step : α → EStateM ε σ Unit} {items : List α} {s : σ}
    (well : ∀ told ∈ (attempt step items s).1, told.2 = .ok ()) :
    items.forM step s = .ok () (attempt step items s).2 := by
  induction items generalizing s with
  | nil => rfl
  | cons a rest ih =>
    obtain ⟨first, later⟩ := List.forall_mem_cons.mp well
    obtain ⟨t, taken⟩ := answer_eq_ok.mp first
    refine bind_eq_ok.mpr ⟨(), t, taken, ?_⟩
    rw [attempt, taken]
    rw [taken] at later
    exact ih later

/-- A sequence takes its steps up to the first that fails. -/
theorem attempt_of_forM {step : α → EStateM ε σ Unit} {items : List α} {s : σ} :
    (∀ t, items.forM step s = .ok () t →
      (∀ told ∈ (attempt step items s).1, told.2 = .ok ()) ∧ (attempt step items s).2 = t) ∧
    ∀ e t, items.forM step s = .error e t → ∃ taken, taken <+: items ∧
      (∃ a, (a, .error e) ∈ (attempt step taken s).1) ∧ (attempt step taken s).2 = t := by
  induction items generalizing s with
  | nil =>
    constructor
    · intro t h
      cases h
      exact ⟨by simp [attempt], rfl⟩
    · intro e t h
      cases h
  | cons a rest ih =>
    constructor
    · intro t h
      obtain ⟨⟨⟩, u, first, later⟩ := bind_eq_ok.mp h
      obtain ⟨well, left⟩ := (ih (s := u)).1 t later
      rw [attempt, first]
      exact ⟨List.forall_mem_cons.mpr ⟨rfl, well⟩, left⟩
    · intro e t h
      rcases bind_eq_error.mp h with first | ⟨⟨⟩, u, first, later⟩
      · refine ⟨[a], ⟨rest, rfl⟩, ⟨a, ?_⟩, ?_⟩
        · simp [attempt, first, answer]
        · simp [attempt, first, final]
      · obtain ⟨taken, short, ⟨b, told⟩, left⟩ := (ih (s := u)).2 e t later
        refine ⟨a :: taken, (List.prefix_cons_inj a).mpr short, ⟨b, ?_⟩, ?_⟩
        · rw [attempt, first]
          exact List.mem_cons_of_mem _ told
        · rw [attempt, first]
          exact left

private theorem attempt_onFiles {f : α → EStateM ε FileSystem Unit} {event : α → Event}
    {items : List α} {w : Workspace} :
    let run :=
      attempt (fun a => (do Work.onFiles (f a); Work.report (event a) : Work ε Unit)) items w
    run.1 = (attempt f items w.files).1 ∧ run.2.files = (attempt f items w.files).2 := by
  induction items generalizing w with
  | nil => exact ⟨rfl, rfl⟩
  | cons a rest ih =>
    have one : answer ((do Work.onFiles (f a); Work.report (event a) : Work ε Unit) w) =
          answer (f a w.files) ∧
        (final ((do Work.onFiles (f a); Work.report (event a) : Work ε Unit) w)).files =
          final (f a w.files) := by
      change answer (EStateM.bind _ _ w) = _ ∧ (final (EStateM.bind _ _ w)).files = _
      unfold EStateM.bind Work.onFiles
      cases f a w.files <;> exact ⟨rfl, rfl⟩
    obtain ⟨logged, left⟩ := ih (w := final ((do Work.onFiles (f a); Work.report (event a)) w))
    simp only [attempt, one.1, logged, left, one.2, and_self]

end Effect

open Effect (attempt)
open FileSystem (Changes Open Grows)

/-- The same entries in the same places. -/
structure FileSystem.Matches (fs other : FileSystem) : Prop where
  workingDirectory : fs.workingDirectory = other.workingDirectory
  entry : ∀ location, fs.get? location = other.get? location

variable {start fs : FileSystem} {output : Path} {site place : Location} {names : List String}
  {name : String}

section Verdict

variable (site_open : start.Open output site)
  (normal : ∀ other ∈ names ++ [name], Path.isNormal other = true) (filled : names ≠ [])
  (there : start.Reaches (output.append names))
include site_open normal filled there

private theorem place_of_misses
    (missed : start.PathMisses (output.append (names ++ [name])) place) :
    place = site ++ (names ++ [name]) := by
  have normal' : ∀ other ∈ names, Path.isNormal other = true :=
    fun other listed => normal other (List.mem_append_left _ listed)
  obtain ⟨location, leads, here⟩ := there.there
  obtain ⟨rfl, -⟩ :=
    FileSystem.leads_below normal' filled site_open.leads site_open.free leads
  have ⟨abs, steps⟩ : (output.append (names ++ [name])).isAbsolute = _ ∧ _ :=
    Path.append_steps normal (by simp)
  obtain ⟨n, -, route⟩ := FileSystem.leads_iff.mp leads
  rw [FileSystem.base_congr (Path.append_steps normal' filled).1, Path.append_way normal' filled]
    at route
  rw [FileSystem.PathMisses, FileSystem.base_congr abs, steps, List.map_append, ← List.append_assoc]
    at missed
  have link_free := site_open.free (site ++ names ++ [name]) (by simp)
  cases missed.after_route route with
  | here none => simp [here] at none
  | enter _ _ _ more =>
    cases more
    rw [List.append_assoc]
  | turn _ _ found => exact absurd found (link_free _)

omit site_open in
private theorem write_eq_store (grows : start.Grows fs) (text : String) :
    let path := output.append (names ++ [name])
    (RenderStep.write path text).run fs =
      ((FileAction.store path text.toUTF8 false).adaptExcept (.writeRefused path)) fs := by
  intro path
  have up : path.parent = _ := Path.parent_append normal filled
  have parent : RenderStep.makeParent path fs = .ok () fs := by
    simp only [RenderStep.makeParent, up]
    exact Effect.adaptExcept_eq_ok.mpr
      (FileAction.makeDirectories_of_reaches (.inr (.inr (there.of_changes grows))))
  change EStateM.bind (RenderStep.makeParent path) _ fs = _
  rw [EStateM.bind, parent]
  rfl

private theorem resolve_still (grows : start.Grows fs)
    (still : fs.get? (site ++ (names ++ [name])) = start.get? (site ++ (names ++ [name]))) :
    fs.resolve true (output.append (names ++ [name])) =
      start.resolve true (output.append (names ++ [name])) := by
  refine FileSystem.resolve_eq grows fun other missed => ?_
  obtain rfl := place_of_misses site_open normal filled there missed
  exact still.trans missed.get?

private theorem write_verdict (text : String) :
    ∃ verdict : Except RenderError Bool, ∀ fs, start.Grows fs →
    fs.get? (site ++ (names ++ [name])) = start.get? (site ++ (names ++ [name])) →
    (RenderStep.write (output.append (names ++ [name])) text).run fs =
      match verdict with
      | .error e => .error e fs
      | .ok mode => .ok () (fs.put (site ++ (names ++ [name])) (.file text.toUTF8 mode)) := by
  have run_eq (fs : FileSystem) (grows : start.Grows fs) :=
    write_eq_store normal filled there grows text
  have same (fs : FileSystem) (grows : start.Grows fs) :=
    resolve_still site_open normal filled there grows
  have at_place {target : Target}
      (found : start.resolve true (output.append (names ++ [name])) = .ok target) :=
    (FileSystem.resolve_below normal (by simp) site_open.leads site_open.free found).1
  generalize output.append (names ++ [name]) = path at *
  generalize site ++ (names ++ [name]) = place at *
  cases found : start.resolve true path with
  | error e =>
    refine ⟨.error (.writeRefused path e), fun fs grows still => ?_⟩
    simp only [run_eq fs grows, EStateM.adaptExcept, FileAction.store, same fs grows still, found]
  | ok target =>
    have location := at_place found
    cases target with
    | vacant directory last =>
      rw [Target.location] at location
      refine ⟨.ok false, fun fs grows still => ?_⟩
      simp only [run_eq fs grows, EStateM.adaptExcept, FileAction.store, same fs grows still, found,
        location]
    | existing location' =>
      obtain rfl : location' = place := location
      by_cases file : ∃ old mode, start.get? location' = some (.file old mode)
      · obtain ⟨old, mode, file⟩ := file
        refine ⟨.ok mode, fun fs grows still => ?_⟩
        simp only [run_eq fs grows, EStateM.adaptExcept, FileAction.store, same fs grows still,
          found, still, file]
      · refine ⟨.error (.writeRefused path .isADirectory), fun fs grows still => ?_⟩
        have refused : FileAction.store path text.toUTF8 false fs = .error .isADirectory fs := by
          simp only [FileAction.store, same fs grows still, found, still]
          split
          · rename_i old mode there
            exact absurd ⟨old, mode, there⟩ file
          · rfl
        simp only [run_eq fs grows, EStateM.adaptExcept, refused]

end Verdict

section Orders

variable {α : Type} {step : α → EStateM RenderError FileSystem Unit} {place : α → Location}
  {bytes : α → ByteArray} {verdict : α → Except RenderError Bool}

/-- What steps leave that each write one file: in the place of a step what it wrote, if it did, and
elsewhere what was there. -/
structure Attempted (start : FileSystem) (place : α → Location) (bytes : α → ByteArray)
    (verdict : α → Except RenderError Bool) (items : List α) (last : FileSystem) : Prop where
  workingDirectory : last.workingDirectory = start.workingDirectory
  own : ∀ a ∈ items, last.get? (place a) =
    match verdict a with
    | .error _ => start.get? (place a)
    | .ok mode => some (.file (bytes a) mode)
  other : ∀ location, location ∉ items.map place → last.get? location = start.get? location

section First

variable {a : α} (taken : step a fs =
  match verdict a with
  | .error e => .error e fs
  | .ok mode => .ok () (fs.put (place a) (.file (bytes a) mode)))
include taken

private theorem elsewhere {location : Location} (away : location ≠ place a) :
    (Effect.final (step a fs)).get? location = fs.get? location := by
  rw [taken]
  cases verdict a with
  | error e => rfl
  | ok mode => exact FileSystem.get?_put_of_ne away

private theorem Attempted.cons {rest : List α} {last : FileSystem} (filled : place a ≠ [])
    (apart : place a ∉ rest.map place)
    (left : Attempted (Effect.final (step a fs)) place bytes verdict rest last) :
    Attempted fs place bytes verdict (a :: rest) last := by
  refine ⟨?_, fun b listed => ?_, fun location away => ?_⟩
  · refine left.workingDirectory.trans ?_
    rw [taken]
    cases verdict a <;> rfl
  · rcases List.mem_cons.mp listed with rfl | listed
    · rw [left.other _ apart, taken]
      cases verdict b with
      | error e => rfl
      | ok mode => exact FileSystem.get?_put_self filled
    · rw [left.own b listed]
      cases verdict b with
      | error e => exact elsewhere taken fun same => apart (same ▸ List.mem_map_of_mem listed)
      | ok mode => rfl
  · rw [List.map_cons, List.mem_cons, not_or] at away
    exact (left.other location away.2).trans (elsewhere taken away.1)

end First

private theorem attempt_verdicts {items : List α}
    (each : ∀ a ∈ items, place a ≠ [] ∧ Effect.Keeps (step a) FileSystem.Adds ∧
      ∀ fs, start.Grows fs → fs.get? (place a) = start.get? (place a) →
        step a fs =
          match verdict a with
          | .error e => .error e fs
          | .ok mode => .ok () (fs.put (place a) (.file (bytes a) mode)))
    (apart : (items.map place).Nodup) (grows : start.Grows fs)
    (fresh : ∀ a ∈ items, fs.get? (place a) = start.get? (place a)) :
    (attempt step items fs).1 = items.map (fun a => (a, (verdict a).map fun _ => ())) ∧
      Attempted fs place bytes verdict items (attempt step items fs).2 := by
  induction items generalizing fs with
  | nil => exact ⟨rfl, rfl, by simp, fun _ _ => rfl⟩
  | cons a rest ih =>
    obtain ⟨filled, adds, taken⟩ := each a List.mem_cons_self
    have taken := taken fs grows (fresh a List.mem_cons_self)
    rw [List.map_cons, List.nodup_cons] at apart
    have grows' : start.Grows (Effect.final (step a fs)) :=
      Changes.trans grows (adds.final fs).grows
    -- The places of the later steps are as they were at the start, as this step is not about them.
    have fresh' : ∀ b ∈ rest, (Effect.final (step a fs)).get? (place b) = start.get? (place b) := by
      intro b listed
      have away : place b ≠ place a := fun same => apart.1 (same ▸ List.mem_map_of_mem listed)
      exact (elsewhere taken away).trans (fresh b (List.mem_cons_of_mem a listed))
    obtain ⟨logged, left⟩ :=
      ih (fun b listed => each b (List.mem_cons_of_mem a listed)) apart.2 grows' fresh'
    have first : Effect.answer (step a fs) = (verdict a).map fun _ => () := by
      rw [taken]
      cases verdict a <;> rfl
    exact ⟨by rw [attempt, first, logged, List.map_cons], left.cons taken filled apart.1⟩

theorem Attempted.matches {items items' : List α} {last last' : FileSystem}
    (perm : items.Perm items') (left : Attempted start place bytes verdict items last)
    (left' : Attempted start place bytes verdict items' last') : last.Matches last' := by
  refine ⟨left.workingDirectory.trans left'.workingDirectory.symm, fun location => ?_⟩
  by_cases written : location ∈ items.map place
  · obtain ⟨a, listed, rfl⟩ := List.mem_map.mp written
    rw [left.own a listed, left'.own a (perm.mem_iff.mp listed)]
  · rw [left.other location written, left'.other location fun h =>
      written ((perm.map place).mem_iff.mpr h)]

end Orders

namespace Render

variable {template : Template} {context : Context} {options : RenderOptions} {forms : List Form}

private theorem nodup_of_sound {β : Type} {f : String → β} (sound : Page.Sound forms)
    (injective : ∀ name name', f (Page.fileName name) = f (Page.fileName name') →
      Page.fileName name = Page.fileName name') :
    (forms.map fun form => f (Page.fileName form.name)).Nodup := by
  have apart : ((forms.map Form.name).map fun name => f (Page.fileName name)).Nodup :=
    sound.1.map fun name name' same => fileName_injective (injective name name' same)
  rwa [List.map_map] at apart

/-- The outcomes and the files of an order of some pages, from verdicts that do not depend on it. -/
theorem exists_verdicts {w : Workspace} (template : Template) (context : Context)
    (sound : Page.Sound forms) (site_open : w.files.Open options.output site)
    (there : w.files.Reaches (options.output.append ["pages", "instruction"])) :
    ∃ verdict : Form × Path → Except RenderError Bool, ∀ pages, pages.Subperm (forms.map fun form =>
        (form, options.output.append ["pages", "instruction", Page.fileName form.name])) →
      let run := attempt (fun page => writePage template context page.1 page.2) pages w
      run.1 = pages.map (fun page => (page, (verdict page).map fun _ => ())) ∧
        Attempted w.files
          (fun page => site ++ ["pages", "instruction", Page.fileName page.1.name])
          (fun page => (template.render (context.withForm page.1)).toUTF8) verdict pages
          run.2.files := by
  have one (page : Form × Path) := @write_verdict w.files options.output site
    ["pages", "instruction"] (Page.fileName page.1.name) site_open (page_normal page.1.name)
    (by simp) there (template.render (context.withForm page.1))
  choose verdict decides using one
  refine ⟨verdict, fun pages some_pages => ?_⟩
  obtain ⟨logged, left⟩ : _ ∧ (attempt (fun page : Form × Path =>
      writePage template context page.1 page.2) pages w).2.files = _ := Effect.attempt_onFiles
  intro run
  rw [show run.1 = _ from logged, show run.2.files = _ from left]
  refine attempt_verdicts ?_ ?_ Changes.refl fun _ _ => rfl
  · intro page listed
    obtain ⟨form, -, rfl⟩ := List.mem_map.mp (some_pages.subset listed)
    exact ⟨by simp, RenderStep.run_adds _, decides _⟩
  · obtain ⟨part, perm, sublist⟩ := some_pages
    refine (perm.map _).nodup_iff.mp ((sublist.map _).nodup ?_)
    rw [List.map_map]
    exact nodup_of_sound (f := fun file => site ++ ["pages", "instruction", file]) sound
      fun name name' same => by simpa using same

theorem nodup_pages (sound : Page.Sound forms) :
    ((forms.map fun form => (form, options.output.append
      ["pages", "instruction", Page.fileName form.name])).map Prod.snd).Nodup := by
  rw [List.map_map]
  exact nodup_of_sound (f := fun file => options.output.append ["pages", "instruction", file]) sound
    fun name name' same => by simpa using Path.append_injective same

section Attempts

variable {w : Workspace} {order order' : List (Form × Path)} (sound : Page.Sound forms)
  (site_open : w.files.Open options.output site)
  (there : w.files.Reaches (options.output.append ["pages", "instruction"]))
include sound site_open there

variable (template context) in
/-- Pages that are written in another order have the same outcomes and leave the same files. -/
theorem attempts_agree (part : order.Subperm (forms.map fun form =>
      (form, options.output.append ["pages", "instruction", Page.fileName form.name])))
    (perm : order.Perm order') :
    let step := fun page : Form × Path => writePage template context page.1 page.2
    (∀ page outcome, (page, outcome) ∈ (attempt step order w).1 ↔
      (page, outcome) ∈ (attempt step order' w).1) ∧
    (attempt step order w).2.files.Matches (attempt step order' w).2.files := by
  intro step
  obtain ⟨verdict, runs⟩ := exists_verdicts template context sound site_open there
  obtain ⟨logged, left⟩ := runs order part
  obtain ⟨logged', left'⟩ := runs order' (perm.symm.subperm.trans part)
  refine ⟨fun page outcome => ?_, left.matches perm left'⟩
  have outcomes : (order.map fun page => (page, (verdict page).map fun _ => ())).Perm
      (order'.map fun page => (page, (verdict page).map fun _ => ())) := perm.map _
  rw [logged, logged']
  exact outcomes.mem_iff

variable (perm : order.Perm (forms.map fun form =>
    (form, options.output.append ["pages", "instruction", Page.fileName form.name])))
  (well : ∀ told ∈ (attempt (fun page : Form × Path =>
    writePage template context page.1 page.2) order w).1, told.2 = .ok ())
include perm well

theorem placed_of_attempt {form : Form} (member : form ∈ forms) :
    ∃ mode, (attempt (fun page : Form × Path => writePage template context page.1 page.2)
        order w).2.files.get? (site ++ ["pages", "instruction", Page.fileName form.name]) =
      some (.file (template.render (context.withForm form)).toUTF8 mode) := by
  obtain ⟨verdict, runs⟩ := exists_verdicts template context sound site_open there
  obtain ⟨logged, left⟩ := runs order perm.subperm
  have page : (form, options.output.append ["pages", "instruction", Page.fileName form.name]) ∈
      order := perm.mem_iff.mpr (List.mem_map_of_mem member)
  have told := well _ (logged ▸ List.mem_map_of_mem page)
  have own := left.own _ page
  cases judged : verdict
      (form, options.output.append ["pages", "instruction", Page.fileName form.name]) with
  | error e => simp [judged, Except.map] at told
  | ok mode =>
    rw [judged] at own
    exact ⟨mode, own⟩

theorem forM_of_attempts :
    let step := fun page : Form × Path => writePage template context page.1 page.2
    ∃ after, (forms.map fun form => (form, options.output.append
        ["pages", "instruction", Page.fileName form.name])).forM step w = .ok () after ∧
      after.files.Matches (attempt step order w).2.files := by
  intro step
  obtain ⟨outcomes, left⟩ :=
    attempts_agree template context sound site_open there (List.Subperm.refl _) perm.symm
  exact ⟨_, Effect.forM_of_attempt fun told among => well told ((outcomes _ _).mp among), left⟩

end Attempts

end Render

end UiScaffold
