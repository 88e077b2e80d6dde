import UiScaffold.Proofs.Descriptor.Provenance
import UiScaffold.Proofs.Render.Output
import UiScaffold.Proofs.Text.Lines

/-!
The names of instructions as the names of pages.

A descriptor is accepted only when its instructions have names with more than white space, all of
them different; the renderer wants names that differ and that stay in the directory of the pages. So
the only fault that is left for the renderer to find is a name that strays from the directory, and
instructions that differ have pages that differ.
-/

set_option autoImplicit false
set_option relaxedAutoImplicit false

namespace UiScaffold

namespace Page

/-- A name that leads out of the directory of the pages, or to no file at all. -/
def Strays (name : String) : Prop :=
  name = "." ∨ name = ".." ∨ '/' ∈ name.toList ∨ '\\' ∈ name.toList ∨ '\x00' ∈ name.toList

def FirstStray (names : List String) (name : String) : Prop :=
  ∃ before after, names = before ++ name :: after ∧ Strays name ∧ ∀ other ∈ before, ¬ Strays other

private theorem isFileName_iff {name : String} : IsFileName name ↔ name ≠ "" ∧ ¬ Strays name := by
  simp only [IsFileName, Strays, not_or, ne_eq]

private theorem exists_firstStray {names : List String} {name : String} (member : name ∈ names)
    (strays : Strays name) : ∃ first, FirstStray names first := by
  induction names with
  | nil => cases member
  | cons other rest ih =>
    by_cases here : Strays other
    · exact ⟨other, [], rest, rfl, here, by simp⟩
    · have later : name ∈ rest := by
        rcases List.mem_cons.mp member with rfl | later
        · exact absurd strays here
        · exact later
      obtain ⟨first, before, after, rfl, found, clean⟩ := ih later
      exact ⟨first, other :: before, after, rfl, found, List.forall_mem_cons.mpr ⟨here, clean⟩⟩

section Named

variable {forms : List Form} (distinct : (forms.map Form.name).Nodup)
  (filled : ∀ form ∈ forms, form.name ≠ "")
include distinct filled

private theorem nameFault_iff {e : RenderError} :
    NameFault forms e ↔ ∃ name, FirstStray (forms.map Form.name) name ∧ e = .unusableName name := by
  constructor
  · intro fault
    cases fault with
    | @repeated before after form split sound again =>
      rw [split, List.map_append, List.map_cons] at distinct
      exact absurd rfl ((List.nodup_append.mp distinct).2.2 _ again _ List.mem_cons_self)
    | @unusable before after form split sound unusable =>
      have named : form.name ≠ "" := filled form (split ▸ by simp)
      have strays : Strays form.name :=
        not_not.mp fun stays => unusable (isFileName_iff.mpr ⟨named, stays⟩)
      have clean : ∀ other ∈ before.map Form.name, ¬ Strays other := by
        intro other member
        obtain ⟨earlier, listed, rfl⟩ := List.mem_map.mp member
        exact (isFileName_iff.mp (sound.2 earlier listed)).2
      refine ⟨form.name, ⟨_, after.map Form.name, ?_, strays, clean⟩, rfl⟩
      rw [split, List.map_append, List.map_cons]
  · rintro ⟨name, ⟨before, after, split, strays, clean⟩, rfl⟩
    obtain ⟨front, rest, rfl, rfl, back⟩ := List.map_eq_append_iff.mp split
    obtain ⟨form, later, rfl, rfl, -⟩ := List.map_eq_cons_iff.mp back
    refine .unusable rfl ⟨?_, fun other member => ?_⟩ fun stays =>
      (isFileName_iff.mp stays).2 strays
    · rw [List.map_append] at distinct
      exact (List.nodup_append.mp distinct).1
    · exact isFileName_iff.mpr ⟨filled other (List.mem_append_left _ member),
        clean other.name (List.mem_map_of_mem member)⟩

private theorem sound_of_stays (stays : ∀ form ∈ forms, ¬ Strays form.name) : Sound forms :=
  ⟨distinct, fun form member => isFileName_iff.mpr ⟨filled form member, stays form member⟩⟩

end Named

private theorem fileName_eq (name : String) : fileName name = name ++ ".tsx" := by
  rw [fileName, String.append_assoc]
  rfl

private theorem ofText_fileName {name : String} (usable : IsFileName name) :
    Path.ofText (fileName name) = ⟨[fileName name]⟩ := by
  have absent : '/' ∉ (fileName name).toList := by
    rw [fileName_eq, String.toList_append, List.mem_append, not_or]
    exact ⟨usable.2.2.2.1, by decide⟩
  rw [Path.ofText, Text.split_of_notMem absent]

end Page

namespace Program

variable {program : Program}

private theorem names_of_ofJson {document : Json} (h : ofJson document = .ok program) :
    (program.instructions.map (·.name)).Nodup ∧
      ∀ instruction ∈ program.instructions, instruction.name ≠ "" := by
  unfold ofJson at h
  cases object : document.asObject? with
  | none => simp [object] at h
  | some members =>
    simp only [object] at h
    obtain ⟨chosen, -, h⟩ := except_bind_eq_ok.mp h
    obtain ⟨instructions, read, h⟩ := except_bind_eq_ok.mp h
    obtain ⟨⟨⟩, checked, h⟩ := except_bind_eq_ok.mp h
    obtain ⟨types, -, h⟩ := except_bind_eq_ok.mp h
    cases h
    refine ⟨Instruction.checkNames_eq_ok.mp checked, fun instruction member empty => ?_⟩
    obtain ⟨⟨value, index⟩, -, read_one⟩ := exists_of_mem_mapM read member
    obtain ⟨members, -, named, -⟩ := Instruction.ofJson_eq_ok read_one
    have shown := (Option.filter_eq_some_iff.mp named).2
    rw [empty] at shown
    cases shown

private theorem names_forms : program.forms.map Form.name = program.instructions.map (·.name) := by
  rw [forms, List.map_map]
  rfl

private theorem forms_filled {document : Json} (h : ofJson document = .ok program) :
    ∀ form ∈ program.forms, form.name ≠ "" := by
  intro form member
  obtain ⟨instruction, listed, rfl⟩ := List.mem_map.mp member
  exact (names_of_ofJson h).2 instruction listed

private theorem ofJson_of_ofText {text : String} (h : ofText text = .ok program) :
    ∃ document, ofJson document = .ok program := by
  unfold ofText at h
  split at h
  · exact ⟨_, h⟩
  · cases h

private theorem fileNames_eq_ok {files : List String}
    (h : Page.fileNames program.forms = .ok files) :
    files = (program.instructions.map (·.name)).map (· ++ ".tsx") ∧ files.Nodup ∧
      ∀ file ∈ files, Path.ofText file = ⟨[file]⟩ ∧ Path.isNormal file = true := by
  obtain ⟨sound, rfl⟩ := Page.fileNames_eq_ok h
  refine ⟨?_, ?_, ?_⟩
  · rw [← names_forms, List.map_map]
    exact List.map_congr_left fun form _ => Page.fileName_eq form.name
  · have apart := sound.1.map fun name name' => Render.fileName_injective
    rwa [List.map_map] at apart
  · intro file member
    obtain ⟨form, listed, rfl⟩ := List.mem_map.mp member
    exact ⟨Page.ofText_fileName (sound.2 form listed), Render.isNormal_fileName form.name⟩

variable {document : Json} (accepted : ofJson document = .ok program)
include accepted

private theorem fileNames_eq_error {e : RenderError} :
    Page.fileNames program.forms = .error e ↔
      ∃ name, Page.FirstStray (program.instructions.map (·.name)) name ∧
        e = .unusableName name := by
  have distinct := (names_of_ofJson accepted).1
  rw [← names_forms] at distinct ⊢
  rw [Page.fileNames_eq_error, Page.nameFault_iff distinct (forms_filled accepted)]

private theorem not_repeatedName {name : String} :
    Page.fileNames program.forms ≠ .error (.repeatedName name) := by
  intro h
  obtain ⟨_, -, differs⟩ := (fileNames_eq_error accepted).mp h
  cases differs

private theorem fileNames_of_stays
    (stays : ∀ name ∈ program.instructions.map (·.name), ¬ Page.Strays name) :
    ∃ files, Page.fileNames program.forms = .ok files := by
  have distinct := (names_of_ofJson accepted).1
  rw [← names_forms] at distinct stays
  have sound := Page.sound_of_stays distinct (forms_filled accepted) fun form member =>
    stays form.name (List.mem_map_of_mem member)
  exact ⟨_, Page.fileNames_of_sound sound⟩

private theorem prepare_ne_repeatedName {options : RenderOptions} {fs : FileSystem}
    {name : String} :
    RenderPlan.prepare (.ofProgram program) options fs ≠ .error (.repeatedName name) := by
  intro refused
  obtain ⟨check, member, fault⟩ := (Render.prepare_eq_error.mp refused).exists_mem
  simp only [Render.checks, List.mem_cons, List.not_mem_nil, or_false] at member
  rcases member with rfl | rfl | rfl | rfl
  · cases fault
  · cases fault
  · cases fault
  · exact not_repeatedName accepted (Page.fileNames_eq_error.mpr fault)

end Program

private theorem accepted_of_load {fs : FileSystem} {path : Path} {program : Program}
    (h : Program.load fs path = .ok program) :
    ∃ document, Program.ofJson document = .ok program := by
  unfold Program.load at h
  split at h
  · exact Program.ofJson_of_ofText h
  · cases h

section Generate

variable {now : Instant} {choices : GenerateOptions} {before after : Workspace}

private theorem generate_ne_repeatedName {name : String} :
    generate now choices before ≠ .error (.render (.repeatedName name)) after := by
  intro h
  obtain ⟨cause, differs, -⟩ | ⟨program, rendered, cause, loaded, same, -, ended⟩ :=
    generate_error_cases h
  · cases differs
  cases same
  obtain ⟨document, accepted⟩ := accepted_of_load loaded
  rcases Effect.bind_eq_error.mp ended with checked | ⟨plan, w₁, checked, written⟩
  · exact Program.prepare_ne_repeatedName accepted (Effect.query_eq_error.mp checked).1
  · -- What writing raises is no fault of the names.
    have raised := Render.writeTree_raises _ _ _ _ _ _ written
    cases raised

private theorem generate_pages {outcome : GenerateOutcome}
    (h : generate now choices before = .ok outcome after) :
    ∃ program, Program.load before.files choices.descriptor = .ok program ∧
      outcome.summary.pages = program.instructions.map (fun instruction =>
        (choices.forRender now).pagesPath.child (instruction.name ++ ".tsx")) ∧
      outcome.summary.pages.Nodup := by
  obtain ⟨program, plan, rendered, loaded, prepared, -, written⟩ := generate_inv h
  obtain ⟨document, accepted⟩ := accepted_of_load loaded
  have listed : outcome.summary.pages = program.instructions.map fun instruction =>
      (choices.forRender now).pagesPath.child (instruction.name ++ ".tsx") := by
    obtain ⟨-, -, pages⟩ := Render.prepare_eq_ok prepared
    rw [Render.writeTree_pages written, pages, List.map_map, RenderSource.ofProgram,
      Program.forms, List.map_map]
    refine List.map_congr_left fun instruction _ => ?_
    rw [← Page.fileName_eq, Render.pagesPath_child]
    rfl
  have apart : ∀ name name' : String,
      (choices.forRender now).pagesPath.child (name ++ ".tsx") =
        (choices.forRender now).pagesPath.child (name' ++ ".tsx") → name = name' := by
    intro name name' same
    rw [← Page.fileName_eq, ← Page.fileName_eq] at same
    exact Render.fileName_injective (List.cons.inj (Path.append_injective same)).1
  refine ⟨program, loaded, listed, ?_⟩
  have distinct := (Program.names_of_ofJson accepted).1.map apart
  rw [List.map_map] at distinct
  rw [listed]
  exact distinct

end Generate

/-- The names of an accepted descriptor are never refused as repeated. They are refused exactly when
one of them strays from the directory of the pages, for the first that does, and otherwise each
instruction has a file of its own, named after it. So a generation never ends over a repeated name,
and one that succeeds has a page of its own for each instruction. -/
theorem accepted_names_fit_pages :
    (∀ (text : String) (program : Program), Program.ofText text = .ok program →
      let names := program.instructions.map (·.name)
      (∀ name, Page.fileNames program.forms ≠ .error (.repeatedName name)) ∧
      (∀ e, Page.fileNames program.forms = .error e ↔
        ∃ name, Page.FirstStray names name ∧ e = .unusableName name) ∧
      ((∃ e, Page.fileNames program.forms = .error e) ↔ ∃ name ∈ names, Page.Strays name) ∧
      ((∀ name ∈ names, ¬ Page.Strays name) → ∃ files, Page.fileNames program.forms = .ok files ∧
        files = names.map (· ++ ".tsx") ∧ files.Nodup ∧
          ∀ file ∈ files, Path.ofText file = ⟨[file]⟩ ∧ Path.isNormal file = true)) ∧
    ∀ (now : Instant) (choices : GenerateOptions) (before after : Workspace),
      (∀ name, generate now choices before ≠ .error (.render (.repeatedName name)) after) ∧
      ∀ outcome, generate now choices before = .ok outcome after →
        ∃ program, Program.load before.files choices.descriptor = .ok program ∧
          outcome.summary.pages = program.instructions.map (fun instruction =>
            (choices.forRender now).pagesPath.child (instruction.name ++ ".tsx")) ∧
          outcome.summary.pages.Nodup := by
  refine ⟨fun text program h => ?_, fun now choices before after =>
    ⟨fun name => generate_ne_repeatedName, fun outcome => generate_pages⟩⟩
  obtain ⟨document, accepted⟩ := Program.ofJson_of_ofText h
  intro names
  have strays_iff : (∃ e, Page.fileNames program.forms = .error e) ↔
      ∃ name ∈ names, Page.Strays name := by
    constructor
    · rintro ⟨e, refused⟩
      obtain ⟨name, ⟨_, _, split, strays, -⟩, -⟩ := (Program.fileNames_eq_error accepted).mp refused
      exact ⟨name, by simp [names, split], strays⟩
    · rintro ⟨name, member, strays⟩
      obtain ⟨first, found⟩ := Page.exists_firstStray member strays
      exact ⟨_, (Program.fileNames_eq_error accepted).mpr ⟨first, found, rfl⟩⟩
  refine ⟨fun _ => Program.not_repeatedName accepted, fun _ => Program.fileNames_eq_error accepted,
    strays_iff, fun stays => ?_⟩
  obtain ⟨files, named⟩ := Program.fileNames_of_stays accepted stays
  exact ⟨files, named, Program.fileNames_eq_ok named⟩

/-- A descriptor whose names have files, one whose names stray twice, and a generation. -/
theorem accepted_names_fit_pages_of_two :
    let plain := "\x7b\"instructions\":[\x7b\"name\":\"mint\"\x7d,\x7b\"name\":\" mint\"\x7d]\x7d"
    let straying := "\x7b\"instructions\":[\x7b\"name\":\"mint\"\x7d,\x7b\"name\":\"..\"\x7d," ++
      "\x7b\"name\":\"a/b\"\x7d]\x7d"
    (∃ program, Program.ofText plain = .ok program ∧ ∃ files,
      Page.fileNames program.forms = .ok files ∧ files = ["mint.tsx", " mint.tsx"]) ∧
    (∃ program, Program.ofText straying = .ok program ∧
      Page.fileNames program.forms = .error (.unusableName "..")) ∧
    ∃ outcome after, generate ⟨0, 0⟩ sampleChoices ⟨sampleFiles [], []⟩ = .ok outcome after ∧
      outcome.summary.pages.Nodup := by
  intro plain straying
  have accepts (text : String) (names : List String)
      (read : (Program.ofText text).toOption.map (fun program =>
        program.instructions.map (·.name)) = some names) :
      ∃ program, Program.ofText text = .ok program ∧ program.instructions.map (·.name) = names := by
    obtain ⟨program, accepted, named⟩ := Option.map_eq_some_iff.mp read
    exact ⟨program, except_toOption_eq_some.mp accepted, named⟩
  obtain ⟨program, accepted, named⟩ := accepts plain ["mint", " mint"] (by decide +kernel)
  obtain ⟨program', accepted', named'⟩ := accepts straying ["mint", "..", "a/b"] (by decide +kernel)
  refine ⟨⟨program, accepted, ?_⟩, ⟨program', accepted', ?_⟩, ?_⟩
  · obtain ⟨-, -, -, stays⟩ := accepted_names_fit_pages.1 plain program accepted
    obtain ⟨files, ok, same, -⟩ := stays (by rw [named]; simp [Page.Strays])
    exact ⟨files, ok, by rw [same, named]; rfl⟩
  · obtain ⟨-, refused, -⟩ := accepted_names_fit_pages.1 straying program' accepted'
    refine (refused _).mpr ⟨"..", ⟨["mint"], ["a/b"], named', .inr (.inl rfl), ?_⟩, rfl⟩
    simp [Page.Strays]
  · have succeeds : Effect.endsWell (generate ⟨0, 0⟩ sampleChoices ⟨sampleFiles [], []⟩)
        (fun _ => true) = true := by
      decide +kernel
    obtain ⟨outcome, after, h, -⟩ := Effect.endsWell_iff.mp succeeds
    obtain ⟨-, -, -, distinct⟩ := (accepted_names_fit_pages.2 _ _ _ after).2 outcome h
    exact ⟨outcome, after, h, distinct⟩

end UiScaffold
