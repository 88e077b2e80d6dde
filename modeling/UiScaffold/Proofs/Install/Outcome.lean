import UiScaffold.Proofs.Install.Launches

/-!
What comes of an installation.

The last command decides: the manager, or `npm` after a `yarn` that cannot be found. An installation
that fails writes down why, where it can, and fails for that very reason.
-/

set_option autoImplicit false
set_option relaxedAutoImplicit false

namespace UiScaffold.Install

/-- An installation depends on what a command does in the files that it finds. -/
def Tries (launch : Launcher) (directory : Path) (manager : String) (w : Workspace)
    (start : Launch) : Prop :=
  ∃ launch' : Launcher,
    (∀ other : Launch, other ≠ start →
      launch' other.command other.files = launch other.command other.files) ∧
    install launch' directory manager w ≠ install launch directory manager w

inductive Last (launch : Launcher) (directory : Path) (manager : String) (fs : FileSystem) :
    Launch → Prop
  | fallback {left : FileSystem} : manager = "yarn" →
      launch ⟨manager, ["install"], directory⟩ fs = .error .notFound left →
      Last launch directory manager fs ⟨⟨"npm", ["install"], directory⟩, left⟩
  | manager : (manager = "yarn" → ∀ left,
        launch ⟨manager, ["install"], directory⟩ fs ≠ .error .notFound left) →
      Last launch directory manager fs ⟨⟨manager, ["install"], directory⟩, fs⟩

/-- A section of the log is there if it has something to say. -/
inductive Section (title : String) : String → String → Prop
  | silent : Section title "" ""
  | told {text : String} : text ≠ "" →
      Section title text ("\n--- " ++ title ++ " ---\n" ++ text ++ "\n")

/-- The text of a log: the line of the error, and what the command has written. -/
inductive Logs : InstallError → String → Prop
  | notStarted {program : String} {cause : OsError} :
      Logs (.notStarted program cause)
        ("Failed to run `" ++ program ++ "`: " ++ cause.message ++ "\n")
  | failed {program output errors first second : String} {ending : Ending} :
      Section "stdout" output first → Section "stderr" errors second →
      Logs (.failed program ending output errors)
        ("`" ++ program ++ " install` failed with status " ++ ending.status.repr ++ "\n" ++
          (first ++ second))

/-- What becomes of the log: its directory cannot be made, or it cannot be written then, or it has
just the text that is to be kept. -/
inductive LogKept (directory : Path) (text : String) (before : FileSystem) : FileSystem → Prop
  | unmade {cause : OsError} {after : FileSystem} :
      FileAction.makeDirectories (directory.append [".castui"]) before = .error cause after →
      LogKept directory text before after
  | unwritten {cause : OsError} {made : FileSystem} :
      FileAction.makeDirectories (directory.append [".castui"]) before = .ok () made →
      FileAction.writeText (directory.append [".castui", "install.log"]) text made =
        .error cause made →
      LogKept directory text before made
  | written {made after : FileSystem} :
      FileAction.makeDirectories (directory.append [".castui"]) before = .ok () made →
      FileAction.writeText (directory.append [".castui", "install.log"]) text made =
        .ok () after →
      after.readText (directory.append [".castui", "install.log"]) = .ok text →
      LogKept directory text before after

/-- The log of an error is kept, and nothing else is changed: what does not lead to the log shows
what it did. -/
structure Logged (directory : Path) (error : InstallError) (before after : FileSystem) : Prop where
  log : ∃ text, Logs error text ∧ LogKept directory text before after
  works : KeepsLog directory before after
  others : ∀ path entry, before.status path = .ok entry →
    (∀ location, after.Leads path location →
      ¬ after.Leads (directory.append [".castui", "install.log"]) location) →
    after.status path = .ok entry

/-- What comes of an installation, by what comes of its last command. -/
inductive Outcome (launch : Launcher) (directory : Path) (last : Launch) :
    EStateM.Result InstallError Workspace Unit → Prop
  | installed {result : CommandResult} {w' : Workspace} :
      launch last.command last.files = .ok result w'.files → result.ending = .exited 0 →
      Outcome launch directory last (.ok () w')
  | failed {result : CommandResult} {left : FileSystem} {error : InstallError} {w' : Workspace} :
      launch last.command last.files = .ok result left → result.ending ≠ .exited 0 →
      error = .failed last.command.program result.ending
        (Text.trim (Text.decodeLossy result.output)) (Text.trim (Text.decodeLossy result.errors)) →
      Logged directory error left w'.files → Outcome launch directory last (.error error w')
  | notStarted {cause : OsError} {left : FileSystem} {error : InstallError} {w' : Workspace} :
      launch last.command last.files = .error cause left →
      error = .notStarted last.command.program cause →
      Logged directory error left w'.files → Outcome launch directory last (.error error w')

variable {launch : Launcher} {directory : Path} {manager : String} {error : InstallError}
  {fs : FileSystem} {w w' : Workspace} {start : Launch}

private theorem mem_launches_iff : start ∈ launches launch directory manager fs ↔
    start = ⟨⟨manager, ["install"], directory⟩, fs⟩ ∨
      ∃ left, manager = "yarn" ∧
        launch ⟨manager, ["install"], directory⟩ fs = .error .notFound left ∧
        start = ⟨⟨"npm", ["install"], directory⟩, left⟩ := by
  rcases launches_cases launch directory manager ⟨fs, []⟩ with
    ⟨left, missing, preferred, both, -⟩ | ⟨stays, one, -⟩
  · have both : launches launch directory manager fs = _ := both
    rw [both, List.mem_pair]
    refine or_congr Iff.rfl ⟨fun same => ⟨left, preferred, missing, same⟩, ?_⟩
    rintro ⟨left', -, missing', same⟩
    cases missing.symm.trans missing'
    exact same
  · have one : launches launch directory manager fs = _ := one
    rw [one, List.mem_singleton]
    refine ⟨.inl, fun tried => tried.resolve_right ?_⟩
    rintro ⟨left, preferred, missing, -⟩
    exact stays left missing preferred

private theorem tries_iff : Tries launch directory manager w start ↔
    start ∈ launches launch directory manager w.files := by
  constructor
  · rintro ⟨launch', same, differs⟩
    by_contra absent
    refine differs (install_congr fun other listed => same other ?_)
    rintro rfl
    exact absent listed
  · intro listed
    classical
    -- Were the command to succeed in leaving other files, the installation would leave them.
    let final := (Effect.final (install launch directory manager w)).files
    let other : FileSystem := { final with workingDirectory := "" :: final.workingDirectory }
    let result : CommandResult := ⟨.exited 0, ByteArray.empty, ByteArray.empty⟩
    let launch' : Launcher := fun command files =>
      if (⟨command, files⟩ : Launch) = start then .ok result other else launch command files
    have same (different : Launch) (h : different ≠ start) :
        launch' different.command different.files = launch different.command different.files :=
      if_neg h
    have answers : launch' start.command start.files = .ok result other := if_pos rfl
    obtain ⟨after, installed, left⟩ := install_of_success listed same rfl answers
    refine ⟨launch', same, fun equal => ?_⟩
    have ended : final = after.files :=
      congrArg (fun result => (Effect.final result).files) (equal.symm.trans installed)
    have shorter := congrArg (·.workingDirectory.length) (ended.trans left)
    simp [other] at shorter

private theorem section_logSection (title text : String) :
    Section title text (InstallError.logSection title text) := by
  unfold InstallError.logSection
  by_cases empty : text = ""
  · subst empty
    exact .silent
  · rw [if_neg empty]
    exact .told empty

private theorem logs_log (error : InstallError) : Logs error error.log := by
  cases error with
  | notStarted program cause =>
    have text : (InstallError.notStarted program cause).log =
        "Failed to run `" ++ program ++ "`: " ++ cause.message ++ "\n" := String.append_empty
    rw [text]
    exact .notStarted
  | failed program ending output errors =>
    exact .failed (section_logSection "stdout" output) (section_logSection "stderr" errors)

private theorem logKept_of_keepLog (kept : keepLog (logPath directory) error w = .ok () w') :
    LogKept directory error.log w.files w'.files := by
  have place : logPath directory = directory.append [".castui", "install.log"] :=
    Path.child_append (by decide)
  have parent : (logPath directory).parent = some (directory.append [".castui"]) := by
    have normal : ∀ other ∈ [".castui"] ++ ["install.log"], Path.isNormal other = true := by decide
    rw [place]
    exact Path.parent_append normal (List.cons_ne_nil _ _)
  have writes : writeLog (logPath directory) error =
      (do FileAction.makeDirectories (directory.append [".castui"])
          FileAction.writeText (logPath directory) error.log) := by
    rw [writeLog, parent]
  unfold keepLog at kept
  cases written : Work.onFiles (writeLog (logPath directory) error) w with
  | ok done after =>
    rw [written] at kept
    rw [Effect.report_eq_ok kept]
    have written := (Effect.onFiles_eq_ok.mp written).1
    rw [writes] at written
    obtain ⟨⟨⟩, made, directories, written⟩ := Effect.bind_eq_ok.mp written
    rw [place] at written
    exact .written directories written (FileAction.writeText_readText written)
  | error cause after =>
    rw [written] at kept
    rw [Effect.report_eq_ok kept]
    have refused := (Effect.onFiles_eq_error.mp written).1
    rw [writes] at refused
    rcases Effect.bind_eq_error.mp refused with unmade | ⟨⟨⟩, made, directories, unwritten⟩
    · exact .unmade unmade
    · have same : after.files = made := FileAction.store_error unwritten
      rw [place, same] at unwritten
      rw [same]
      exact .unwritten directories unwritten

private theorem logged_of_keepLog (kept : keepLog (logPath directory) error w = .ok () w')
    (keeps : KeepsLog directory w.files w'.files) : Logged directory error w.files w'.files where
  log := ⟨error.log, logs_log error, logKept_of_keepLog kept⟩
  works := keeps
  others := by
    intro path entry found away
    refine keeps.works.status found ?_
    rintro location other leads rfl
    have place : logPath directory = directory.append [".castui", "install.log"] :=
      Path.child_append (by decide)
    rw [← place] at away
    exact away location leads

private theorem attempt_eq_trial (launch : Launcher) (directory : Path) (manager : String)
    (w : Workspace) : ∃ program files journal,
      Last launch directory manager w.files ⟨command directory program, files⟩ ∧
      attempt launch directory manager w = trial launch directory program ⟨files, journal⟩ := by
  rcases launches_cases launch directory manager w with
    ⟨left, missing, preferred, -, same⟩ | ⟨stays, -, same⟩
  · exact ⟨fallbackManager, left, _, .fallback preferred missing, same⟩
  · exact ⟨manager, w.files, w.journal, .manager fun preferred left missing =>
      stays left missing preferred, same⟩

/-- An installation tries the manager, and `npm` after it exactly if `yarn` was asked for and cannot
be found. What comes of it is what comes of the last command: nothing is written after a success,
and after a failure the log of the error that it ends with, as far as that can be written. -/
theorem last_command_decides (launch : Launcher) (directory : Path) (manager : String)
    (w : Workspace) :
    (∀ start, Tries launch directory manager w start ↔
      start = ⟨⟨manager, ["install"], directory⟩, w.files⟩ ∨
        ∃ left, manager = "yarn" ∧
          launch ⟨manager, ["install"], directory⟩ w.files = .error .notFound left ∧
          start = ⟨⟨"npm", ["install"], directory⟩, left⟩) ∧
    ∃ last, Last launch directory manager w.files last ∧
      Outcome launch directory last (install launch directory manager w) := by
  refine ⟨fun start => tries_iff.trans mem_launches_iff, ?_⟩
  obtain ⟨program, files, journal, last, same⟩ := attempt_eq_trial launch directory manager
    ⟨w.files, w.journal ++ [.installing manager directory]⟩
  refine ⟨_, last, ?_⟩
  have failed {error : InstallError} {left : FileSystem}
      (ended : trial launch directory program ⟨files, journal⟩ = .error error ⟨left, journal⟩) :
      ∃ w', install launch directory manager w = .error error w' ∧
        Logged directory error left w'.files := by
    obtain ⟨w', kept, keeps, failed⟩ := install_of_error (same.trans ended)
    exact ⟨w', failed, logged_of_keepLog kept keeps⟩
  cases answers : launch (command directory program) files with
  | error cause left =>
    have ended : trial launch directory program ⟨files, journal⟩ =
        .error (.notStarted program cause) ⟨left, journal⟩ := by
      simp only [trial, answers]
    obtain ⟨w', failed, logged⟩ := failed ended
    rw [failed]
    exact .notStarted answers rfl logged
  | ok result left =>
    by_cases success : result.ending.isSuccess = true
    · rw [install_eq, same, trial_of_success success answers]
      exact .installed answers (eq_of_beq success)
    · have ended : trial launch directory program ⟨files, journal⟩ =
          .error (.failed program result.ending (decoded result.output) (decoded result.errors))
            ⟨left, journal⟩ := by
        simp only [trial, answers, Work.query, judge, if_neg success]
      obtain ⟨w', failed, logged⟩ := failed ended
      rw [failed]
      refine .failed answers ?_ rfl logged
      intro zero
      exact success (beq_iff_eq.mpr zero)

def linkedLog : FileSystem where
  entries := [(["w"], .directory), (["w", "out"], .directory),
    (["w", "out", "logo.svg"], .file "new".toUTF8 false), (["w", "out", ".castui"], .directory),
    (["w", "out", ".castui", "install.log"], .link ⟨["..", "logo.svg"]⟩)]
  workingDirectory := ["w"]

/-- A manager that cannot be found leaves the logo alone, but the log of its failure replaces it. -/
theorem linked_log_replaces_logo :
    let launch : Launcher := fun _ fs => .error .notFound fs
    linkedLog.readBytes ⟨["out", "logo.svg"]⟩ = .ok "new".toUTF8 ∧
      ∃ error w', install launch ⟨["out"]⟩ "missing" ⟨linkedLog, []⟩ = .error error w' ∧
        w'.files.readBytes ⟨["out", "logo.svg"]⟩ =
          .ok "Failed to run `missing`: No such file or directory (os error 2)\n".toUTF8 := by
  intro launch
  obtain ⟨before, after⟩ :
      (linkedLog.readBytes ⟨["out", "logo.svg"]⟩).toOption = some "new".toUTF8 ∧
      Effect.endsBadly (install launch ⟨["out"]⟩ "missing" ⟨linkedLog, []⟩) (fun _ w' =>
        (w'.files.readBytes ⟨["out", "logo.svg"]⟩).toOption = some
          "Failed to run `missing`: No such file or directory (os error 2)\n".toUTF8) = true := by
    decide +kernel
  obtain ⟨error, w', ended, replaced⟩ := Effect.endsBadly_iff.mp after
  exact ⟨except_toOption_eq_some.mp before, error, w', ended,
    except_toOption_eq_some.mp (of_decide_eq_true replaced)⟩

end UiScaffold.Install
