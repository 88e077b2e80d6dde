import UiScaffold.Proofs.CommandLine.Status
import UiScaffold.Proofs.Install.Launches

/-!
When a run starts commands.

A run starts a command in given files if it would come out differently, were the command to do
something else there. The commands that a run starts are those of the installation, after a
generation that has left its record, and what the last of them leaves is kept but for the log of a
failure.
-/

set_option autoImplicit false
set_option relaxedAutoImplicit false

namespace UiScaffold.CommandLine

/-- A run depends on what a command does in the files that it finds. -/
def Starts (surroundings : Surroundings) (arguments : List String) (fs : FileSystem)
    (start : Launch) : Prop :=
  ∃ launch : Launcher,
    (∀ other : Launch, other ≠ start →
      launch other.command other.files = surroundings.launch other.command other.files) ∧
    run { surroundings with launch } arguments fs ≠ run surroundings arguments fs

def launches (surroundings : Surroundings) (arguments : List String) (fs : FileSystem) :
    List Launch :=
  match Request.read arguments surroundings.environment with
  | .ok (.work (.generate invocation) templates _) =>
    let root := templates.getD (defaultTemplates fs surroundings.home)
    match generation surroundings invocation root fs with
    | .ok _ made =>
      if invocation.skipInstall then []
      else Install.launches surroundings.launch invocation.output invocation.manager made.files
    | .error .. => []
  | _ => []

variable {surroundings : Surroundings} {arguments : List String} {fs : FileSystem}
  {launch : Launcher} {start : Launch}

private theorem launches_cases (surroundings : Surroundings) (arguments : List String)
    (fs : FileSystem) : launches surroundings arguments fs = [] ∨
      ∃ invocation root outcome made, Asks surroundings arguments fs invocation root ∧
        generation surroundings invocation root fs = .ok outcome made ∧
        invocation.skipInstall = false ∧ launches surroundings arguments fs =
          Install.launches surroundings.launch invocation.output invocation.manager made.files := by
  unfold launches
  split
  · rename_i invocation templates verbosity read
    simp only
    split
    · rename_i outcome made generated
      cases wanted : invocation.skipInstall with
      | true => exact .inl rfl
      | false => exact .inr ⟨_, _, _, _, ⟨_, _, rfl, read⟩, generated, wanted, rfl⟩
    · exact .inl rfl
  · exact .inl rfl

section Asks

variable {invocation : Invocation} {root : Path} {outcome : GenerateOutcome} {made : Workspace}
  (asks : Asks surroundings arguments fs invocation root)
include asks

private theorem Asks.launches_eq
    (generated : generation surroundings invocation root fs = .ok outcome made)
    (wanted : invocation.skipInstall = false) : launches surroundings arguments fs =
      Install.launches surroundings.launch invocation.output invocation.manager made.files := by
  obtain ⟨templates, verbosity, rfl, read⟩ := asks
  simp only [launches, read, generated, wanted, Bool.false_eq_true, if_false]

end Asks

private theorem generateAndInstall_congr {invocation : Invocation} {root : Path}
    (same : ∀ outcome made, generation surroundings invocation root fs = .ok outcome made →
      invocation.skipInstall = false → install launch invocation.output invocation.manager made =
        install surroundings.launch invocation.output invocation.manager made) :
    generateAndInstall { surroundings with launch } invocation root ⟨fs, []⟩ =
      generateAndInstall surroundings invocation root ⟨fs, []⟩ := by
  unfold generateAndInstall
  cases generated : generate surroundings.now (options invocation root) ⟨fs, []⟩ with
  | error error after => rfl
  | ok outcome made =>
    cases wanted : invocation.skipInstall with
    | true => simp only [installFor, wanted, if_true]
    | false =>
      simp only [installFor, wanted, Bool.false_eq_true, if_false,
        same outcome made generated wanted]

private theorem run_congr (agree : ∀ start ∈ launches surroundings arguments fs,
    launch start.command start.files = surroundings.launch start.command start.files) :
    run { surroundings with launch } arguments fs = run surroundings arguments fs := by
  match read : Request.read arguments surroundings.environment with
  | .error error => simp only [run, read]
  | .ok (.help full) => simp only [run, read, answer]
  | .ok .version => simp only [run, read, answer]
  | .ok (.work .listTemplates templates verbosity) => simp only [run, read, answer]
  | .ok (.work (.generate invocation) templates verbosity) =>
    have same : generateAndInstall { surroundings with launch } invocation
        (templates.getD (defaultTemplates fs surroundings.home)) ⟨fs, []⟩ = _ :=
      generateAndInstall_congr fun outcome made generated wanted => by
        have asks : Asks surroundings arguments fs invocation _ := ⟨_, _, rfl, read⟩
        rw [asks.launches_eq generated wanted] at agree
        exact install_congr agree
    simp only [run, read, answer, same]

private theorem starts_iff : Starts surroundings arguments fs start ↔
    start ∈ launches surroundings arguments fs := by
  constructor
  · rintro ⟨launch, same, differs⟩
    by_contra absent
    refine differs (run_congr fun other listed => same other ?_)
    rintro rfl
    exact absent listed
  · intro listed
    classical
    -- Were the command to succeed in leaving other files, the run would leave them.
    let final := (run surroundings arguments fs).2
    let other : FileSystem := { final with workingDirectory := "" :: final.workingDirectory }
    let result : CommandResult := ⟨.exited 0, ByteArray.empty, ByteArray.empty⟩
    let launch : Launcher := fun command files =>
      if (⟨command, files⟩ : Launch) = start then .ok result other
      else surroundings.launch command files
    have same (different : Launch) (h : different ≠ start) :
        launch different.command different.files =
          surroundings.launch different.command different.files := if_neg h
    refine ⟨launch, same, fun equal => ?_⟩
    rcases launches_cases surroundings arguments fs with
      none | ⟨invocation, root, outcome, made, asks, generated, wanted, eq⟩
    · rw [none] at listed
      cases listed
    · rw [eq] at listed
      have answers : launch start.command start.files = .ok result other := if_pos rfl
      obtain ⟨after, installed, left⟩ := install_of_success (w := made) listed same rfl answers
      have asks' : Asks { surroundings with launch } arguments fs invocation root := asks
      have ended := (asks'.run_of_install_ok generated wanted installed).2
      rw [equal, left] at ended
      have shorter := congrArg (·.workingDirectory.length) ended
      simp [other, final] at shorter

private theorem run_left {earlier : List Launch} {last : Launch}
    (listed : launches surroundings arguments fs = earlier ++ [last]) :
    ∃ invocation root, Asks surroundings arguments fs invocation root ∧
      ((run surroundings arguments fs).1.status = 0 ∧
          (run surroundings arguments fs).2 = last.left surroundings.launch ∨
        (run surroundings arguments fs).1.status = 2 ∧
          Install.KeepsLog invocation.output (last.left surroundings.launch)
            (run surroundings arguments fs).2) := by
  rcases launches_cases surroundings arguments fs with
    none | ⟨invocation, root, outcome, made, asks, generated, wanted, eq⟩
  · simp [none] at listed
  obtain ⟨earlier', last', listed', installed, failed⟩ :=
    install_left surroundings.launch invocation.output invocation.manager made
  obtain ⟨-, same⟩ := List.append_inj' (listed.symm.trans (eq.trans listed')) rfl
  obtain rfl : last = last' := by simpa using same
  refine ⟨invocation, root, asks, ?_⟩
  cases ended : install surroundings.launch invocation.output invocation.manager made with
  | ok done after =>
    obtain ⟨status, left⟩ := asks.run_of_install_ok generated wanted ended
    exact .inl ⟨status, left.trans (installed after ended)⟩
  | error error after =>
    obtain ⟨status, left⟩ := asks.run_of_install_error generated wanted ended
    exact .inr ⟨status, left ▸ failed error after ended⟩

/-- A run that lists the template sets starts nothing and changes nothing. A run starts a command
only to let a manager install after a generation that succeeded, unless it was told not to, and the
command finds the files as the generation left them, with the record of this very generation. The
files are left as the last command leaves them, unless the installation failed: then the log is
kept. -/
theorem commands_follow_record (finds : surroundings.launch.FindsFirst) :
    (∀ templates verbosity,
      Request.read arguments surroundings.environment =
        .ok (.work .listTemplates templates verbosity) →
      (∀ start, ¬ Starts surroundings arguments fs start) ∧
        (run surroundings arguments fs).2 = fs) ∧
    (∀ start, Starts surroundings arguments fs start → ∃ invocation root outcome made,
      Asks surroundings arguments fs invocation root ∧
      generation surroundings invocation root fs = .ok outcome made ∧
      invocation.skipInstall = false ∧
      (start.command = Install.command invocation.output invocation.manager ∨
        invocation.manager = Install.preferredManager ∧
          start.command = Install.command invocation.output Install.fallbackManager) ∧
      start.files = made.files ∧
      start.files.readText (GenerationRecord.place invocation.output) =
        .ok outcome.summary.record.write) ∧
    (∀ start, Starts surroundings arguments fs start ↔
      start ∈ launches surroundings arguments fs) ∧
    ∀ earlier last, launches surroundings arguments fs = earlier ++ [last] →
      ((run surroundings arguments fs).1.status = 0 →
        (run surroundings arguments fs).2 = last.left surroundings.launch) ∧
      ∀ invocation root, Asks surroundings arguments fs invocation root →
        Install.KeepsLog invocation.output (last.left surroundings.launch)
          (run surroundings arguments fs).2 ∧
        ∀ path entry, (last.left surroundings.launch).status path = .ok entry →
          (∀ location, (run surroundings arguments fs).2.Leads path location →
            ¬ (run surroundings arguments fs).2.Leads (Install.logPath invocation.output)
              location) →
          (run surroundings arguments fs).2.status path = .ok entry := by
  refine ⟨?_, ?_, fun start => starts_iff, ?_⟩
  · intro templates verbosity read
    refine ⟨fun start starts => ?_, by simp only [run, read, answer]⟩
    have listed := starts_iff.mp starts
    simp [launches, read] at listed
  · intro start starts
    have listed := starts_iff.mp starts
    rcases launches_cases surroundings arguments fs with
      none | ⟨invocation, root, outcome, made, asks, generated, wanted, eq⟩
    · rw [none] at listed
      cases listed
    · rw [eq] at listed
      obtain ⟨command, files⟩ := Install.of_mem_launches listed
      have files := files finds
      exact ⟨invocation, root, outcome, made, asks, generated, wanted, command, files,
        files ▸ generation_readText generated⟩
  · intro earlier last listed
    obtain ⟨invocation, root, asks, ends⟩ := run_left listed
    have kept : Install.KeepsLog invocation.output (last.left surroundings.launch)
        (run surroundings arguments fs).2 := by
      rcases ends with ⟨-, left⟩ | ⟨-, kept⟩
      · exact left ▸ .refl _
      · exact kept
    refine ⟨fun zero => ?_, fun invocation' root' asks' => ?_⟩
    · rcases ends with ⟨-, left⟩ | ⟨two, -⟩
      · exact left
      · omega
    · obtain ⟨rfl, rfl⟩ := asks.unique asks'
      refine ⟨kept, fun path entry found away => kept.works.status found ?_⟩
      rintro location other leads rfl
      exact away location leads

/-- Where neither the preferred manager nor the fallback can be found, both are looked for when the
record is there, and no more than the log is kept after them. -/
theorem commands_follow_record_of_missing_managers :
    let surroundings := { sampleSurroundings 0 with launch := Shell.launcher [] }
    let files := sampleFiles []
    surroundings.launch.FindsFirst ∧ ∃ first second,
      launches surroundings sampleArguments files = [first, second] ∧
      ∃ invocation root outcome made, Asks surroundings sampleArguments files invocation root ∧
        generation surroundings invocation root files = .ok outcome made ∧
        second.files.readText (GenerationRecord.place invocation.output) =
          .ok outcome.summary.record.write ∧
        Install.KeepsLog invocation.output (second.left surroundings.launch)
          (run surroundings sampleArguments files).2 := by
  intro surroundings files
  have finds : surroundings.launch.FindsFirst := Shell.launcher_findsFirst []
  have two : (launches surroundings sampleArguments files).length = 2 := by decide +kernel
  obtain ⟨first, second, both⟩ := List.length_eq_two.mp two
  obtain ⟨-, started, starts, left⟩ :=
    @commands_follow_record surroundings sampleArguments files finds
  have last := (starts second).mpr (both ▸ by simp)
  obtain ⟨invocation, root, outcome, made, asks, generated, -, -, -, record⟩ := started second last
  exact ⟨finds, first, second, both, invocation, root, outcome, made, asks, generated, record,
    ((left [first] second both).2 invocation root asks).1⟩

/-- A link in the place of the log: the manager fails and changes nothing, and the log replaces an
asset that this very run has copied. -/
theorem linked_log_replaces_asset :
    let surroundings := sampleSurroundings 1
    let files := sampleFiles [(["w", "out", ".castui"], .directory),
      (["w", "templates", "mini", "logo.svg"], .file "new".toUTF8 false),
      (["w", "out", ".castui", "install.log"], .link ⟨["..", "logo.svg"]⟩)]
    ∃ last, launches surroundings sampleArguments files = [last] ∧
      (last.left surroundings.launch).readBytes ⟨["out", "logo.svg"]⟩ = .ok "new".toUTF8 ∧
      (run surroundings sampleArguments files).2.readBytes ⟨["out", "logo.svg"]⟩ =
        .ok "`yarn install` failed with status 1\n".toUTF8 := by
  intro surroundings files
  obtain ⟨one, copied, replaced⟩ : (launches surroundings sampleArguments files).length = 1 ∧
      (∀ last ∈ launches surroundings sampleArguments files,
        ((last.left surroundings.launch).readBytes ⟨["out", "logo.svg"]⟩).toOption =
          some "new".toUTF8) ∧
      ((run surroundings sampleArguments files).2.readBytes ⟨["out", "logo.svg"]⟩).toOption =
        some "`yarn install` failed with status 1\n".toUTF8 := by decide +kernel
  obtain ⟨last, listed⟩ := List.length_eq_one_iff.mp one
  exact ⟨last, listed,
    except_toOption_eq_some.mp (copied last (listed ▸ List.mem_singleton_self last)),
    except_toOption_eq_some.mp replaced⟩

end UiScaffold.CommandLine
