import Mathlib.Data.List.Induction
import Mathlib.Tactic.Common
import UiScaffold.Generate
import UiScaffold.Proofs.Effect
import UiScaffold.Proofs.Except

/-!
What is checked before anything is written.

The checks of a run stand in a list, each with the errors that it gives on its own. A run that fails
a check ends with the error of the first one and leaves files and journal alone; a run that passes
them all can only fail while it walks through the assets or writes.
-/

set_option autoImplicit false
set_option relaxedAutoImplicit false

namespace UiScaffold

/-- What is wrong with the name of a set: it is not the name of one directory below the root. -/
inductive TemplateSet.NameFault (fs : FileSystem) (root : Path) (name : String) :
    RenderError → Prop
  | severalSteps : (Path.ofText name).singleName? = none →
      NameFault fs root name (.templateNotFound name root (available fs root))
  | noDirectory : fs.isDirectory (root.join (.ofText name)) = false →
      NameFault fs root name (.templateNotFound name root (available fs root))

/-- What is wrong with a template: there is no such file, the file is not UTF-8, or a placeholder in
it is not closed or not known. -/
inductive TemplateSet.FileFault (fs : FileSystem) (directory : Path) (name : String) (file : Path)
    (keys : List String) : RenderError → Prop
  | missing : (∀ bytes mode, fs.status (directory.join file) ≠ .ok (.file bytes mode)) →
      FileFault fs directory name file keys (.missingTemplateFile name file)
  | notText {bytes : ByteArray} {mode : Bool} :
      fs.status (directory.join file) = .ok (.file bytes mode) →
      String.fromUTF8? bytes = none →
      FileFault fs directory name file keys (.unreadableTemplate (directory.join file) .notText)
  | faulty {bytes : ByteArray} {mode : Bool} {text : String} {fault : Template.Fault} :
      fs.status (directory.join file) = .ok (.file bytes mode) →
      String.fromUTF8? bytes = some text →
      Template.parse (directory.join file) text keys = .error fault →
      FileFault fs directory name file keys (.faultyTemplate (directory.join file) fault)

namespace Page

/-- A name that can name a file in the directory of the pages. -/
def IsFileName (name : String) : Prop :=
  name ≠ "" ∧ name ≠ "." ∧ name ≠ ".." ∧
    '/' ∉ name.toList ∧ '\\' ∉ name.toList ∧ '\x00' ∉ name.toList

/-- Forms whose names can name files and differ from each other. -/
def Sound (forms : List Form) : Prop :=
  (forms.map Form.name).Nodup ∧ ∀ form ∈ forms, IsFileName form.name

/-- What is wrong with the names of forms, at the first form that spoils them. -/
inductive NameFault (forms : List Form) : RenderError → Prop
  | repeated {before after : List Form} {form : Form} :
      forms = before ++ form :: after → Sound before → form.name ∈ before.map Form.name →
      NameFault forms (.repeatedName form.name)
  | unusable {before after : List Form} {form : Form} :
      forms = before ++ form :: after → Sound before → ¬ IsFileName form.name →
      NameFault forms (.unusableName form.name)

end Page

namespace Render

/-- The checks of a run in their order, each by the errors that it gives. -/
def checks (fs : FileSystem) (source : RenderSource) (options : RenderOptions) :
    List (RenderError → Prop) :=
  let directory := options.root.join (.ofText options.template)
  [TemplateSet.NameFault fs options.root options.template,
    TemplateSet.FileFault fs directory options.template TemplateSet.shellFile TemplateSet.shellKeys,
    TemplateSet.FileFault fs directory options.template TemplateSet.pageFile TemplateSet.pageKeys,
    Page.NameFault source.forms]

/-- An error of the first check that fails. -/
inductive FirstFault : List (RenderError → Prop) → RenderError → Prop
  | here {check : RenderError → Prop} {rest : List (RenderError → Prop)} {e : RenderError} :
      check e → FirstFault (check :: rest) e
  | later {check : RenderError → Prop} {rest : List (RenderError → Prop)} {e : RenderError} :
      (∀ e', ¬ check e') → FirstFault rest e → FirstFault (check :: rest) e

def isFault : RenderError → Bool
  | .templateNotFound .. => true
  | .missingTemplateFile .. => true
  | .unreadableTemplate .. => true
  | .faultyTemplate .. => true
  | .unusableName _ => true
  | .repeatedName _ => true
  | .brokenTree .. => false
  | .directoryRefused .. => false
  | .copyRefused .. => false
  | .writeRefused .. => false

end Render

namespace TemplateSet

variable {fs : FileSystem} {root directory file : Path} {name : String} {keys : List String}

private theorem resolve_of_fault {e : RenderError} (h : NameFault fs root name e) :
    resolve fs root name = .error e := by
  cases h with
  | severalSteps h => simp [resolve, h]
  | noDirectory h => simp [resolve, h]

private theorem resolve_of_sound (h : ∀ e, ¬ NameFault fs root name e) :
    resolve fs root name = .ok (root.join (.ofText name)) := by
  have single : (Path.ofText name).singleName?.isSome = true := by
    cases hn : (Path.ofText name).singleName? with
    | none => exact absurd (.severalSteps hn) (h _)
    | some step => rfl
  have place : fs.isDirectory (root.join (.ofText name)) = true := by
    by_contra hd
    exact h _ (.noDirectory (Bool.eq_false_iff.mpr hd))
  simp [resolve, single, place]

private theorem isFile_eq_false_iff {path : Path} :
    fs.isFile path = false ↔ ∀ bytes mode, fs.status path ≠ .ok (.file bytes mode) := by
  unfold FileSystem.isFile
  split
  · next bytes mode h => simp [h]
  · next h => simpa using h

private theorem loadFile_of_status {bytes : ByteArray} {mode : Bool}
    (h : fs.status (directory.join file) = .ok (.file bytes mode)) :
    loadFile fs directory name file keys =
      match String.fromUTF8? bytes with
      | none => .error (.unreadableTemplate (directory.join file) .notText)
      | some text =>
        match Template.parse (directory.join file) text keys with
        | .ok template => .ok template
        | .error fault => .error (.faultyTemplate (directory.join file) fault) := by
  have isFile : fs.isFile (directory.join file) = true := by simp [FileSystem.isFile, h]
  have read : fs.readBytes (directory.join file) = .ok bytes := by
    simp [FileSystem.readBytes, h, bind, Except.bind]
  cases ht : String.fromUTF8? bytes with
  | none =>
    have text : fs.readText (directory.join file) = .error .notText := by
      simp [FileSystem.readText, read, ht, bind, Except.bind]
    simp [loadFile, isFile, text]
  | some source =>
    have text : fs.readText (directory.join file) = .ok source := by
      simp [FileSystem.readText, read, ht, bind, Except.bind]
    cases hp : Template.parse (directory.join file) source keys <;>
      simp [loadFile, isFile, text, hp]

private theorem loadFile_of_fault {e : RenderError} (h : FileFault fs directory name file keys e) :
    loadFile fs directory name file keys = .error e := by
  cases h with
  | missing h => simp [loadFile, isFile_eq_false_iff.mpr h]
  | notText h ht => rw [loadFile_of_status h, ht]
  | faulty h ht hp => simp [loadFile_of_status h, ht, hp]

private theorem loadFile_of_sound (h : ∀ e, ¬ FileFault fs directory name file keys e) :
    ∃ template, loadFile fs directory name file keys = .ok template := by
  obtain ⟨bytes, mode, hs⟩ :
      ∃ bytes mode, fs.status (directory.join file) = .ok (.file bytes mode) := by
    by_contra hn
    push Not at hn
    exact h _ (.missing hn)
  rw [loadFile_of_status hs]
  cases ht : String.fromUTF8? bytes with
  | none => exact absurd (.notText hs ht) (h _)
  | some text =>
    cases hp : Template.parse (directory.join file) text keys with
    | error fault => exact absurd (.faulty hs ht hp) (h _)
    | ok template => exact ⟨template, by simp [hp]⟩

end TemplateSet

namespace Page

private theorem isUnusable_eq_true_iff {name : String} :
    isUnusable name = true ↔ ¬ IsFileName name := by
  have slash : (name.toList.any fun c => c == '/' || c == '\\' || c == '\x00') = true ↔
      '/' ∈ name.toList ∨ '\\' ∈ name.toList ∨ '\x00' ∈ name.toList := by
    simp only [List.any_eq_true, Bool.or_eq_true, beq_iff_eq]
    constructor
    · rintro ⟨c, hc, (rfl | rfl) | rfl⟩
      · exact .inl hc
      · exact .inr (.inl hc)
      · exact .inr (.inr hc)
    · rintro (hc | hc | hc)
      · exact ⟨_, hc, .inl (.inl rfl)⟩
      · exact ⟨_, hc, .inl (.inr rfl)⟩
      · exact ⟨_, hc, .inr rfl⟩
  simp only [isUnusable, Bool.or_eq_true, beq_iff_eq, slash, IsFileName]
  tauto

private theorem fileNamesAfter_append (seen : List String) (before rest : List Form)
    (sound : Sound before) (fresh : ∀ form ∈ before, form.name ∉ seen) :
    fileNamesAfter seen (before ++ rest) =
      (fileNamesAfter ((before.map Form.name).reverse ++ seen) rest).map
        (before.map (fun form => fileName form.name) ++ ·) := by
  induction before generalizing seen with
  | nil =>
    simp only [List.nil_append, List.map_nil, List.reverse_nil]
    cases fileNamesAfter seen rest <;> rfl
  | cons form before ih =>
    obtain ⟨distinct, usable⟩ := sound
    rw [List.map_cons, List.nodup_cons] at distinct
    have unseen : form.name ∉ seen := fresh form List.mem_cons_self
    have named : isUnusable form.name = false := by
      rw [← Bool.not_eq_true, isUnusable_eq_true_iff, not_not]
      exact usable form List.mem_cons_self
    have later : ∀ other ∈ before, other.name ∉ form.name :: seen := by
      intro other ho hm
      rcases List.mem_cons.mp hm with same | old
      · exact distinct.1 (same ▸ List.mem_map_of_mem ho)
      · exact fresh other (List.mem_cons_of_mem form ho) old
    have tail := ih (form.name :: seen)
      ⟨distinct.2, fun other ho => usable other (List.mem_cons_of_mem form ho)⟩ later
    simp only [List.cons_append, fileNamesAfter, unseen, named, if_false, Bool.false_eq_true, tail,
      List.map_cons, List.reverse_cons, List.append_assoc, List.nil_append]
    cases fileNamesAfter ((before.map Form.name).reverse ++ form.name :: seen) rest <;> rfl

private theorem fileNames_of_fault {forms : List Form} {e : RenderError} (h : NameFault forms e) :
    fileNames forms = .error e := by
  cases h with
  | @repeated before after form split sound again =>
    rw [fileNames, split, fileNamesAfter_append [] before _ sound (by simp)]
    have : form.name ∈ (before.map Form.name).reverse ++ [] := by simpa using again
    simp only [fileNamesAfter, this, if_true]
    rfl
  | @unusable before after form split sound unusable =>
    rw [fileNames, split, fileNamesAfter_append [] before _ sound (by simp)]
    have hu : isUnusable form.name = true := isUnusable_eq_true_iff.mpr unusable
    by_cases again : form.name ∈ before.map Form.name
    · -- An earlier form of that name would have been refused itself.
      obtain ⟨earlier, he, same⟩ := List.mem_map.mp again
      exact absurd (same ▸ sound.2 earlier he) unusable
    · have : form.name ∉ (before.map Form.name).reverse ++ [] := by simpa using again
      simp only [fileNamesAfter, this, if_false, hu, if_true]
      rfl

/-- Forms without a fault are sound: the first one that spoils the names would be at fault. -/
private theorem sound_of_no_fault {forms : List Form} (h : ∀ e, ¬ NameFault forms e) :
    Sound forms := by
  suffices ∀ before after, forms = before ++ after → Sound before by
    exact this forms [] (List.append_nil forms).symm
  intro before
  induction before using List.reverseRecOn with
  | nil => exact fun _ _ => ⟨List.nodup_nil, by simp⟩
  | append_singleton before form ih =>
    intro after split
    have split : forms = before ++ form :: after := by simpa using split
    have sound : Sound before := ih _ split
    have fresh : form.name ∉ before.map Form.name := fun again =>
      h _ (.repeated split sound again)
    have usable : IsFileName form.name := by
      by_contra unusable
      exact h _ (.unusable split sound unusable)
    constructor
    · rw [List.map_append, List.nodup_append]
      refine ⟨sound.1, by simp, ?_⟩
      intro a ha b hb same
      simp only [List.map_cons, List.map_nil, List.mem_singleton] at hb
      exact fresh (hb ▸ same ▸ ha)
    · intro other ho
      rcases List.mem_append.mp ho with ho | ho
      · exact sound.2 other ho
      · rw [List.mem_singleton.mp ho]
        exact usable

theorem fileNames_of_sound {forms : List Form} (h : Sound forms) :
    fileNames forms = .ok (forms.map fun form => fileName form.name) := by
  have all := fileNamesAfter_append [] forms [] h (by simp)
  rw [List.append_nil] at all
  rw [fileNames, all]
  simp only [fileNamesAfter, Except.map, List.append_nil]

theorem fileNames_eq_ok {forms : List Form} {names : List String}
    (h : fileNames forms = .ok names) :
    Sound forms ∧ names = forms.map fun form => fileName form.name := by
  have sound : Sound forms := sound_of_no_fault fun e fault => by
    rw [fileNames_of_fault fault] at h
    cases h
  rw [fileNames_of_sound sound] at h
  cases h
  exact ⟨sound, rfl⟩

theorem fileNames_eq_error {forms : List Form} {e : RenderError} :
    fileNames forms = .error e ↔ NameFault forms e := by
  refine ⟨fun h => ?_, fileNames_of_fault⟩
  by_contra other
  have sound : Sound forms := sound_of_no_fault fun e' fault => by
    rw [fileNames_of_fault fault] at h
    exact other (Except.error.inj h ▸ fault)
  rw [fileNames_of_sound sound] at h
  cases h

end Page

namespace Render

theorem FirstFault.exists_mem {checks : List (RenderError → Prop)} {e : RenderError}
    (h : FirstFault checks e) : ∃ check ∈ checks, check e := by
  induction h with
  | here fault => exact ⟨_, List.mem_cons_self, fault⟩
  | later _ _ ih =>
    obtain ⟨check, member, fault⟩ := ih
    exact ⟨check, List.mem_cons_of_mem _ member, fault⟩

private theorem exists_firstFault_or (checks : List (RenderError → Prop)) :
    (∃ e, FirstFault checks e) ∨ ∀ check ∈ checks, ∀ e, ¬ check e := by
  induction checks with
  | nil => exact .inr (by simp)
  | cons check rest ih =>
    by_cases fails : ∃ e, check e
    · obtain ⟨e, fault⟩ := fails
      exact .inl ⟨e, .here fault⟩
    · have passes : ∀ e, ¬ check e := not_exists.mp fails
      rcases ih with ⟨e, first⟩ | all
      · exact .inl ⟨e, .later passes first⟩
      · exact .inr (List.forall_mem_cons.mpr ⟨passes, all⟩)

variable {fs : FileSystem} {source : RenderSource} {options : RenderOptions} {e : RenderError}

private theorem prepare_of_fault (h : FirstFault (checks fs source options) e) :
    RenderPlan.prepare source options fs = .error e := by
  unfold RenderPlan.prepare TemplateSet.load
  cases h with
  | here h =>
    rw [TemplateSet.resolve_of_fault h]
    rfl
  | later named h =>
    rw [TemplateSet.resolve_of_sound named]
    cases h with
    | here h =>
      simp only [bind, Except.bind, TemplateSet.loadFile_of_fault h]
    | later shell h =>
      obtain ⟨shellTemplate, hShell⟩ := TemplateSet.loadFile_of_sound shell
      cases h with
      | here h =>
        simp only [bind, Except.bind, hShell, TemplateSet.loadFile_of_fault h]
      | later page h =>
        obtain ⟨pageTemplate, hPage⟩ := TemplateSet.loadFile_of_sound page
        cases h with
        | here h =>
          simp only [bind, Except.bind, pure, Except.pure, hShell, hPage, Page.fileNames_of_fault h]
        | later _ h => cases h

private theorem prepare_of_sound (h : ∀ check ∈ checks fs source options, ∀ e, ¬ check e) :
    ∃ plan, RenderPlan.prepare source options fs = .ok plan := by
  simp only [checks, List.forall_mem_cons] at h
  obtain ⟨named, shell, page, names, -⟩ := h
  obtain ⟨shellTemplate, hShell⟩ := TemplateSet.loadFile_of_sound shell
  obtain ⟨pageTemplate, hPage⟩ := TemplateSet.loadFile_of_sound page
  unfold RenderPlan.prepare TemplateSet.load
  simp only [bind, Except.bind, pure, Except.pure, TemplateSet.resolve_of_sound named, hShell,
    hPage, Page.fileNames_of_sound (Page.sound_of_no_fault names)]
  exact ⟨_, rfl⟩

/-- A run is refused with the error of the first check that fails. -/
theorem prepare_eq_error :
    RenderPlan.prepare source options fs = .error e ↔ FirstFault (checks fs source options) e := by
  refine ⟨fun h => ?_, prepare_of_fault⟩
  rcases exists_firstFault_or (checks fs source options) with ⟨e', first⟩ | passes
  · rw [prepare_of_fault first] at h
    exact Except.error.inj h ▸ first
  · obtain ⟨plan, prepared⟩ := prepare_of_sound passes
    rw [prepared] at h
    cases h

theorem prepare_raises (h : RenderPlan.prepare source options fs = .error e) :
    isFault e = true := by
  obtain ⟨check, member, fault⟩ := (prepare_eq_error.mp h).exists_mem
  simp only [checks, List.mem_cons, List.not_mem_nil, or_false] at member
  rcases member with rfl | rfl | rfl | rfl <;> cases fault <;> rfl

open Effect

private theorem ensureDirectory_raises (path : Path) :
    Raises (RenderStep.ensureDirectory path) (isFault · = false) :=
  .adaptExcept fun _ => rfl

private theorem makeParent_raises (path : Path) :
    Raises (RenderStep.makeParent path) (isFault · = false) := by
  unfold RenderStep.makeParent
  split
  · exact ensureDirectory_raises _
  · exact .pure ()

private theorem step_raises (step : RenderStep) : Raises step.run (isFault · = false) := by
  cases step with
  | makeDirectory path => exact ensureDirectory_raises path
  | copy source target => exact .bind (makeParent_raises target) fun _ => .adaptExcept fun _ => rfl
  | write path text => exact .bind (makeParent_raises path) fun _ => .adaptExcept fun _ => rfl

private theorem walkFrom_raises {ε : Type} {P : ε → Prop} {refuse : WalkError → ε}
    {wanted : Asset → Bool}
    {visit : Asset → EStateM ε FileSystem Unit} (hr : ∀ cause, P (refuse cause))
    (hv : ∀ asset, Raises (visit asset) P) (depth : Nat) (trail : Walk.Trail) (path : Path)
    (relative : List String) :
    Raises (walkFrom refuse wanted visit depth trail path relative) P := by
  induction depth generalizing trail path relative with
  | zero => exact .throw (hr _)
  | succ depth ih =>
    unfold walkFrom
    refine .bind (.adaptExcept hr) fun (location, entries) => ?_
    refine .bind (.mapM entries ?_) fun _ => .pure _
    intro (name, entry) _
    refine .bind (.adaptExcept hr) fun down => ?_
    cases down with
    | true => exact ih _ _ _
    | false =>
      by_cases hw : wanted ⟨path.child name, relative ++ [name]⟩ = true
      · simp only [hw, if_true]
        exact .bind (hv _) fun _ => .pure _
      · simp only [hw]
        exact .pure _

private theorem copyAssets_raises (directory output : Path) :
    Raises (copyAssets directory output) (isFault · = false) := by
  refine .bind ?_ fun _ => .pure _
  exact walkFrom_raises (P := (isFault · = false)) (fun _ => rfl) (fun _ => step_raises _) _ _ _ _

/-- What writing raises is no fault of what was checked. -/
theorem writeTree_raises (source : RenderSource) (options : RenderOptions)
    (plan : RenderPlan) : Raises (writeTree source options plan) (isFault · = false) := by
  unfold writeTree
  refine .bind (.onFiles (step_raises _)) fun _ => ?_
  refine .bind (.onFiles (copyAssets_raises _ _)) fun copied => ?_
  refine .bind (.report _) fun _ => ?_
  refine .bind (.onFiles (step_raises _)) fun _ => ?_
  refine .bind (.report _) fun _ => ?_
  refine .bind (.onFiles (step_raises _)) fun _ => ?_
  refine .bind (.forM _ fun (form, path) => ?_) fun _ => ?_
  · exact .bind (.onFiles (step_raises _)) fun _ => .report _
  refine .bind (.report _) fun _ => ?_
  refine .bind (.onFiles (.bind (step_raises _) fun _ => .pure _)) fun recordPath => ?_
  exact .bind (.report _) fun _ => .pure _

end Render

/-- A workspace with a descriptor, a template set and an output directory, and more entries. -/
def sampleFiles (more : List (Location × Entry)) : FileSystem where
  workingDirectory := ["w"]
  entries := [(["w"], .directory), (["w", "out"], .directory), (["w", "templates"], .directory),
    (["w", "templates", "mini"], .directory), (["w", "templates", "mini", "pages"], .directory),
    (["w", "idl.json"],
      .file "\x7b\"instructions\": [\x7b\"name\": \"mint\"\x7d]\x7d".toUTF8 false),
    (["w", "templates", "mini", "pages", "_app.tsx.tmpl"],
      .file "\x7b\x7bprogramId\x7d\x7d".toUTF8 false),
    (["w", "templates", "mini", "pages", "instruction.tsx.tmpl"],
      .file "\x7b\x7binstruction\x7d\x7d".toUTF8 false)] ++ more

def sampleChoices : GenerateOptions where
  descriptor := ⟨["idl.json"]⟩
  output := ⟨["out"]⟩
  template := "mini"
  network := .devnet
  programId := none
  templates := ⟨["templates"]⟩

def sampleSource : RenderSource where
  programName := "vault"
  programId := "Vault111"
  forms := [⟨"mint", [], [], []⟩, ⟨"burn", [], [], []⟩]

def sampleOptions : RenderOptions := sampleChoices.forRender ⟨0, 0⟩

/-- Whatever can be wrong with a run is found before its first write: a run that fails a check ends
with the error of the first such check and leaves files and journal as they were, and a run that
passes all checks never ends with an error of theirs. A generation whose descriptor is refused
leaves them as they were too. -/
theorem render_checks_before_writing (source : RenderSource) (options : RenderOptions)
    (workspace : Workspace) :
    (∀ e, Render.FirstFault (Render.checks workspace.files source options) e →
      render source options workspace = .error e workspace) ∧
    ((∀ check ∈ Render.checks workspace.files source options, ∀ e, ¬ check e) →
      ∀ e after, render source options workspace = .error e after → Render.isFault e = false) ∧
    (∀ now choices cause, Program.load workspace.files choices.descriptor = .error cause →
      generate now choices workspace =
        .error (.descriptor choices.descriptor cause) workspace) := by
  refine ⟨?_, ?_, ?_⟩
  · intro e fault
    have query : Work.query (RenderPlan.prepare source options) workspace = .error e workspace := by
      simp only [Work.query, Render.prepare_of_fault fault]
    exact Effect.bind_eq_error.mpr (.inl query)
  · intro passed e after failed
    obtain ⟨plan, prepared⟩ := Render.prepare_of_sound passed
    have query : Work.query (RenderPlan.prepare source options) workspace = .ok plan workspace := by
      simp only [Work.query, prepared]
    rcases Effect.bind_eq_error.mp failed with h | ⟨plan', middle, -, h⟩
    · rw [query] at h
      cases h
    · exact Render.writeTree_raises source options plan' _ _ _ h
  · intro now choices cause refused
    refine Effect.bind_eq_error.mpr (.inl ?_)
    simp only [Work.query, refused, Except.mapError]

/-- A shell that is no text is found before a page template that is missing and a name that is used
twice. Where templates and names are sound, a run into a file fails for a reason of its own. -/
theorem render_checks_before_writing_of_spoilt_shell :
    let files := sampleFiles [(["w", "templates", "odd"], .directory),
      (["w", "templates", "odd", "pages"], .directory),
      (["w", "templates", "odd", "pages", "_app.tsx.tmpl"], .file ⟨#[0xff]⟩ false)]
    let twice := sampleSource.forms ++ sampleSource.forms
    let shell : Path := ⟨["templates", "odd", "pages", "_app.tsx.tmpl"]⟩
    render { sampleSource with forms := twice } { sampleOptions with template := "odd" }
        ⟨files, []⟩ = .error (.unreadableTemplate shell .notText) ⟨files, []⟩ ∧
    (∃ e after, render sampleSource { sampleOptions with output := ⟨["idl.json"]⟩ } ⟨files, []⟩ =
      .error e after ∧ Render.isFault e = false) ∧
    generate ⟨0, 0⟩ { sampleChoices with descriptor := ⟨["no.json"]⟩ } ⟨files, []⟩ =
      .error (.descriptor ⟨["no.json"]⟩ (.unreadable ⟨["no.json"]⟩ .notFound)) ⟨files, []⟩ := by
  intro files twice shell
  refine ⟨?_, ?_, ?_⟩
  · have status : files.status (Path.join ⟨["templates", "odd"]⟩ TemplateSet.shellFile) =
        .ok (.file ⟨#[0xff]⟩ false) := rfl
    have fault : TemplateSet.FileFault files ⟨["templates", "odd"]⟩ "odd" TemplateSet.shellFile
        TemplateSet.shellKeys _ :=
      .notText status (by decide +kernel)
    refine (render_checks_before_writing _ _ _).1 _ (.later ?_ (.here fault))
    rintro e (several | nowhere)
    · exact absurd several (by decide)
    · exact absurd nowhere (by decide)
  · have fails : Effect.endsBadly (render sampleSource
        { sampleOptions with output := ⟨["idl.json"]⟩ } ⟨files, []⟩) (fun _ _ => true) = true := by
      decide +kernel
    have checked : (RenderPlan.prepare sampleSource
        { sampleOptions with output := ⟨["idl.json"]⟩ } files).toBool = true := by
      decide +kernel
    obtain ⟨e, after, failed, -⟩ := Effect.endsBadly_iff.mp fails
    refine ⟨e, after, failed, (render_checks_before_writing _ _ _).2.1 ?_ e after failed⟩
    refine (Render.exists_firstFault_or _).resolve_left ?_
    rintro ⟨e, fault⟩
    rw [Render.prepare_eq_error.mpr fault] at checked
    cases checked
  · exact (render_checks_before_writing sampleSource sampleOptions _).2.2 ⟨0, 0⟩ _ _ rfl

end UiScaffold
