import UiScaffold.CommandLine.Run
import UiScaffold.Proofs.Render.Record

/-!
What the exit status of a run tells.

A run ends at one of six stages: its command line is refused, it answers without a generation, its
generation fails, the installation is left out, goes well or fails. Each stage has a status, and the
status 2 stands for two of them: a failed installation after a generation that went well, and a
command line that is not understood.
-/

set_option autoImplicit false
set_option relaxedAutoImplicit false

namespace UiScaffold.CommandLine

/-- A command line that asks for a generation, with the directory of the template sets for it. -/
def Asks (surroundings : Surroundings) (arguments : List String) (fs : FileSystem)
    (invocation : Invocation) (root : Path) : Prop :=
  ∃ templates verbosity, root = templates.getD (defaultTemplates fs surroundings.home) ∧
    Request.read arguments surroundings.environment =
      .ok (.work (.generate invocation) templates verbosity)

def generation (surroundings : Surroundings) (invocation : Invocation) (root : Path)
    (fs : FileSystem) : EStateM.Result GenerateError Workspace GenerateOutcome :=
  generate surroundings.now (options invocation root) ⟨fs, []⟩

variable {surroundings : Surroundings} {arguments : List String} {fs : FileSystem}
  {invocation : Invocation} {root : Path}

theorem Asks.unique {invocation' : Invocation} {root' : Path}
    (h : Asks surroundings arguments fs invocation root)
    (h' : Asks surroundings arguments fs invocation' root') :
    invocation' = invocation ∧ root' = root := by
  obtain ⟨templates, verbosity, rfl, read⟩ := h
  obtain ⟨templates', verbosity', rfl, read'⟩ := h'
  cases read.symm.trans read'
  exact ⟨rfl, rfl⟩

theorem generation_readText {outcome : GenerateOutcome} {made : Workspace}
    (h : generation surroundings invocation root fs = .ok outcome made) :
    made.files.readText (GenerationRecord.place invocation.output) =
      .ok outcome.summary.record.write := by
  have place : (options invocation root).output = invocation.output := rfl
  rw [← place]
  exact generate_readText h

/-- What a run comes to: its stage, with the exit status and the files at the end. -/
inductive Ends (surroundings : Surroundings) (arguments : List String) (fs : FileSystem) :
    Nat → FileSystem → Prop
  | refused {error : UsageError} :
      Request.read arguments surroundings.environment = .error error →
      Ends surroundings arguments fs 2 fs
  /-- Help, the version, or the list of the template sets. -/
  | answered {request : Request} {status : Nat} :
      Request.read arguments surroundings.environment = .ok request →
      (∀ invocation root, ¬ Asks surroundings arguments fs invocation root) → status ≤ 1 →
      Ends surroundings arguments fs status fs
  | failed {invocation : Invocation} {root : Path} {error : GenerateError} {after : Workspace} :
      Asks surroundings arguments fs invocation root →
      generation surroundings invocation root fs = .error error after →
      Ends surroundings arguments fs 1 after.files
  | generated {invocation : Invocation} {root : Path} {outcome : GenerateOutcome}
      {after : Workspace} :
      Asks surroundings arguments fs invocation root →
      generation surroundings invocation root fs = .ok outcome after →
      invocation.skipInstall = true → Ends surroundings arguments fs 0 after.files
  | installed {invocation : Invocation} {root : Path} {outcome : GenerateOutcome}
      {made after : Workspace} :
      Asks surroundings arguments fs invocation root →
      generation surroundings invocation root fs = .ok outcome made →
      invocation.skipInstall = false →
      install surroundings.launch invocation.output invocation.manager made = .ok () after →
      Ends surroundings arguments fs 0 after.files
  | kept {invocation : Invocation} {root : Path} {outcome : GenerateOutcome}
      {error : InstallError} {made after : Workspace} :
      Asks surroundings arguments fs invocation root →
      generation surroundings invocation root fs = .ok outcome made →
      invocation.skipInstall = false →
      install surroundings.launch invocation.output invocation.manager made = .error error after →
      Ends surroundings arguments fs 2 after.files

section Asks

variable (asks : Asks surroundings arguments fs invocation root)
include asks

private theorem Asks.run_eq :
    (run surroundings arguments fs).1.status =
        (generateAndInstall surroundings invocation root ⟨fs, []⟩).1.status ∧
      (run surroundings arguments fs).2 =
        (generateAndInstall surroundings invocation root ⟨fs, []⟩).2.files := by
  obtain ⟨templates, verbosity, rfl, read⟩ := asks
  simp only [run, read, answer, and_self]

private theorem Asks.run_of_error {error : GenerateError} {after : Workspace}
    (failed : generation surroundings invocation root fs = .error error after) :
    (run surroundings arguments fs).1.status = 1 ∧
      (run surroundings arguments fs).2 = after.files := by
  rw [asks.run_eq.1, asks.run_eq.2]
  unfold generateAndInstall
  rw [show generate _ _ _ = _ from failed]
  exact ⟨rfl, rfl⟩

section Generated

variable {outcome : GenerateOutcome} {made : Workspace}
  (generated : generation surroundings invocation root fs = .ok outcome made)
include generated

private theorem Asks.run_of_skip (skipped : invocation.skipInstall = true) :
    (run surroundings arguments fs).1.status = 0 ∧
      (run surroundings arguments fs).2 = made.files := by
  rw [asks.run_eq.1, asks.run_eq.2]
  unfold generateAndInstall
  simp only [show generate _ _ _ = _ from generated, installFor, skipped, if_true, pure,
    EStateM.pure, and_self]

variable {after : Workspace} (wanted : invocation.skipInstall = false)
include wanted

theorem Asks.run_of_install_ok
    (installed :
      install surroundings.launch invocation.output invocation.manager made = .ok () after) :
    (run surroundings arguments fs).1.status = 0 ∧
      (run surroundings arguments fs).2 = after.files := by
  rw [asks.run_eq.1, asks.run_eq.2]
  unfold generateAndInstall
  simp only [show generate _ _ _ = _ from generated, installFor, wanted, Bool.false_eq_true,
    if_false, installed, and_self]

theorem Asks.run_of_install_error {error : InstallError}
    (failed :
      install surroundings.launch invocation.output invocation.manager made = .error error after) :
    (run surroundings arguments fs).1.status = 2 ∧
      (run surroundings arguments fs).2 = after.files := by
  rw [asks.run_eq.1, asks.run_eq.2]
  unfold generateAndInstall
  simp only [show generate _ _ _ = _ from generated, installFor, wanted, Bool.false_eq_true,
    if_false, failed, and_self]

end Generated

private theorem Asks.ends :
    Ends surroundings arguments fs (run surroundings arguments fs).1.status
      (run surroundings arguments fs).2 := by
  cases made : generation surroundings invocation root fs with
  | error error after =>
    obtain ⟨status, left⟩ := asks.run_of_error made
    exact status ▸ left ▸ .failed asks made
  | ok outcome made' =>
    cases skipped : invocation.skipInstall with
    | true =>
      obtain ⟨status, left⟩ := asks.run_of_skip made skipped
      exact status ▸ left ▸ .generated asks made skipped
    | false =>
      cases ended : install surroundings.launch invocation.output invocation.manager made' with
      | ok done after =>
        obtain ⟨status, left⟩ := asks.run_of_install_ok made skipped ended
        exact status ▸ left ▸ .installed asks made skipped ended
      | error error after =>
        obtain ⟨status, left⟩ := asks.run_of_install_error made skipped ended
        exact status ▸ left ▸ .kept asks made skipped ended

end Asks

private theorem list_status_le (fs : FileSystem) (root : Path) : (list fs root).status ≤ 1 := by
  unfold list
  split <;> simp

private theorem run_ends (surroundings : Surroundings) (arguments : List String) (fs : FileSystem) :
    Ends surroundings arguments fs (run surroundings arguments fs).1.status
      (run surroundings arguments fs).2 := by
  cases read : Request.read arguments surroundings.environment with
  | error error =>
    simp only [run, read]
    exact .refused read
  | ok request =>
    have other (not : ∀ invocation templates verbosity,
        request ≠ .work (.generate invocation) templates verbosity) (invocation root) :
        ¬ Asks surroundings arguments fs invocation root := by
      rintro ⟨templates, verbosity, -, read'⟩
      exact not _ _ _ (Except.ok.inj (read.symm.trans read'))
    match request with
    | .work (.generate invocation) templates verbosity =>
      exact Asks.ends ⟨templates, verbosity, rfl, read⟩
    | .work .listTemplates templates verbosity =>
      simp only [run, read, answer]
      exact .answered read (other (by simp)) (list_status_le _ _)
    | .help full =>
      simp only [run, read, answer]
      exact .answered read (other (by simp)) (Nat.zero_le _)
    | .version =>
      simp only [run, read, answer]
      exact .answered read (other (by simp)) (Nat.zero_le _)

/-- A run that has generated a UI, whose record it has left, and failed over the installation
only. -/
def OnlyInstallFails (surroundings : Surroundings) (arguments : List String) (fs : FileSystem) :
    Prop :=
  ∃ invocation root outcome made, Asks surroundings arguments fs invocation root ∧
    generation surroundings invocation root fs = .ok outcome made ∧
    made.files.readText (GenerationRecord.place invocation.output) =
      .ok outcome.summary.record.write ∧
    invocation.skipInstall = false ∧ ∃ error after,
      install surroundings.launch invocation.output invocation.manager made = .error error after

/-- The status is 2 when a command line is refused or only the installation fails, 1 when the
generation fails, and 0 when a generation goes well and so does the installation, or it is left
out. -/
theorem status_tells_stage (surroundings : Surroundings) (arguments : List String)
    (fs : FileSystem) :
    ((run surroundings arguments fs).1.status = 2 ↔
      (∃ error, Request.read arguments surroundings.environment = .error error) ∨
        OnlyInstallFails surroundings arguments fs) ∧
    (∀ invocation root error after, Asks surroundings arguments fs invocation root →
      generation surroundings invocation root fs = .error error after →
        (run surroundings arguments fs).1.status = 1) ∧
    ∀ invocation root outcome made, Asks surroundings arguments fs invocation root →
      generation surroundings invocation root fs = .ok outcome made →
      (invocation.skipInstall = true ∨ ∃ after,
        install surroundings.launch invocation.output invocation.manager made = .ok () after) →
        (run surroundings arguments fs).1.status = 0 := by
  refine ⟨⟨fun two => ?_, ?_⟩, ?_, ?_⟩
  · have ends := run_ends surroundings arguments fs
    rw [two] at ends
    generalize (run surroundings arguments fs).2 = left at ends
    cases ends with
    | refused read => exact .inl ⟨_, read⟩
    | answered _ _ few => omega
    | kept asks made wanted ended =>
      exact .inr ⟨_, _, _, _, asks, made, generation_readText made, wanted, _, _, ended⟩
  · rintro (⟨error, read⟩ | ⟨invocation, root, outcome, made, asks, generated, -, wanted, error,
      after, failed⟩)
    · simp only [run, read]
    · exact (asks.run_of_install_error generated wanted failed).1
  · exact fun invocation root error after asks failed => (asks.run_of_error failed).1
  · rintro invocation root outcome made asks generated (skipped | ⟨after, installed⟩)
    · exact (asks.run_of_skip generated skipped).1
    · cases wanted : invocation.skipInstall with
      | true => exact (asks.run_of_skip generated wanted).1
      | false => exact (asks.run_of_install_ok generated wanted installed).1

/-- Surroundings without an environment, in which every command ends with the given status and
changes nothing. -/
def sampleSurroundings (code : Nat) : Surroundings where
  environment := []
  home := none
  now := ⟨0, 0⟩
  launch := fun _ fs => .ok ⟨.exited code, ByteArray.empty, ByteArray.empty⟩ fs

def sampleArguments : List String := ["--idl", "idl.json", "--out", "out", "--template", "mini"]

theorem status_tells_stage_of_failed_install :
    OnlyInstallFails (sampleSurroundings 3) sampleArguments (sampleFiles []) := by
  have status : (run (sampleSurroundings 3) sampleArguments (sampleFiles [])).1.status = 2 := by
    decide +kernel
  refine ((status_tells_stage _ _ _).1.mp status).resolve_left ?_
  rintro ⟨error, read⟩
  have accepted : (Request.read sampleArguments []).toOption.isSome = true := by decide +kernel
  rw [show Request.read sampleArguments [] = .error error from read] at accepted
  cases accepted

/-- The status of a command line without a descriptor is that of a failed installation, although
nothing has been generated. -/
theorem refused_line_has_install_status :
    (run (sampleSurroundings 0) [] (sampleFiles [])).1.status = 2 ∧
      (run (sampleSurroundings 0) [] (sampleFiles [])).2 = sampleFiles [] ∧
      ¬ OnlyInstallFails (sampleSurroundings 0) [] (sampleFiles []) := by
  have refused : Request.read [] (sampleSurroundings 0).environment =
      .error (.missingDescriptor []) := rfl
  refine ⟨by simp only [run, refused], by simp only [run, refused], ?_⟩
  rintro ⟨invocation, root, outcome, made, ⟨templates, verbosity, -, read⟩, -⟩
  cases refused.symm.trans read

end UiScaffold.CommandLine
