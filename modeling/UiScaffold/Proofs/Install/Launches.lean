import UiScaffold.Install.Run
import UiScaffold.Proofs.Render.Confinement
import UiScaffold.Proofs.Render.Writing
import UiScaffold.Shell.Launcher

/-!
The commands that an installation starts.

An installation starts the manager, and the fallback after it where the manager is the preferred one
and cannot be found. It asks nothing else of whatever starts commands, so it is the same for two
that agree on these starts. When the last command has ended, nothing is changed any more after a
success, and only the log is written after a failure, with the directories that are missing on the
way to it.
-/

set_option autoImplicit false
set_option relaxedAutoImplicit false

namespace UiScaffold

open Effect (Keeps)
open FileSystem (WorksAt WritesAt)

structure Launch where
  command : Command
  files : FileSystem

def Launch.left (launch : Launcher) (start : Launch) : FileSystem :=
  Effect.final (launch start.command start.files)

/-- A command that cannot be found changes nothing. -/
def Launcher.FindsFirst (launch : Launcher) : Prop :=
  ∀ command before after, launch command before = .error .notFound after → after = before

namespace Shell

private theorem enterDirectory_error {path : Path} {before after : FileSystem} {e : OsError}
    (h : Run.enterDirectory path before = .error e after) : after = before := by
  rcases Effect.bind_eq_error.mp h with asked | ⟨location, fs, -, moved⟩
  · exact (FileAction.ask_eq_error.mp asked).2
  · cases moved

private theorem enterDirectory_entries {path : Path} {before after : FileSystem}
    (h : Run.enterDirectory path before = .ok () after) : after.entries = before.entries := by
  obtain ⟨location, fs, asked, moved⟩ := Effect.bind_eq_ok.mp h
  obtain ⟨-, rfl⟩ := FileAction.ask_eq_ok.mp asked
  cases moved
  rfl

private theorem findAndRun_error {environment : List (String × String)} {words : List String}
    {before after : FileSystem} {e : OsError}
    (h : findAndRun environment words before = .error e after) : after = before := by
  simp only [findAndRun] at h
  split at h <;> cases h
  rfl

private theorem if_error {condition : Bool} {x y : FileAction CommandResult}
    {before after : FileSystem} {e : OsError}
    (h : (if condition = true then x else y) before = .error e after) :
    x before = .error e after ∨ y before = .error e after := by
  cases condition
  · exact .inr h
  · exact .inl h

private theorem launcher_error {environment : List (String × String)} {command : Command}
    {before after : FileSystem} {e : OsError}
    (h : launcher environment command before = .error e after) : after = before := by
  rcases if_error h with refused | h
  · cases refused
    rfl
  · simp only at h
    split at h
    · cases h
    · rename_i left ended
      cases h
      rcases Effect.bind_eq_error.mp ended with entering | ⟨⟨⟩, inside, entering, running⟩
      · rw [enterDirectory_error entering]
      · rw [findAndRun_error running, enterDirectory_entries entering]

theorem launcher_findsFirst (environment : List (String × String)) :
    (launcher environment).FindsFirst :=
  fun _ _ _ => launcher_error

end Shell

namespace Install

def command (directory : Path) (manager : String) : Command := ⟨manager, ["install"], directory⟩

def launches (launch : Launcher) (directory : Path) (manager : String) (fs : FileSystem) :
    List Launch :=
  let first : Launch := ⟨command directory manager, fs⟩
  match launch first.command fs with
  | .error .notFound left =>
    if manager = preferredManager then [first, ⟨command directory fallbackManager, left⟩]
    else [first]
  | _ => [first]

def trial (launch : Launcher) (directory : Path) (manager : String) : Work InstallError Unit :=
  fun workspace =>
    match launch (command directory manager) workspace.files with
    | .ok result files => Work.query (fun _ => judge manager result) { workspace with files }
    | .error cause files => .error (.notStarted manager cause) { workspace with files }

variable {launch launch' : Launcher} {directory path : Path} {manager : String}
  {error : InstallError} {fs left : FileSystem} {w w' : Workspace} {start last : Launch}

section Trial

private theorem trial_eq : trial launch directory manager =
    ((Install.start launch directory manager).adaptExcept (InstallError.notStarted manager) >>=
      fun result => Work.query fun _ => judge manager result) := by
  funext w
  have started : Install.start launch directory manager w =
      Work.onFiles (launch (command directory manager)) w := rfl
  simp only [bind, EStateM.bind, EStateM.adaptExcept, started, Work.onFiles, trial]
  cases launch (command directory manager) w.files <;> rfl

private theorem trial_congr (same : launch' (command directory manager) w.files =
    launch (command directory manager) w.files) :
    trial launch' directory manager w = trial launch directory manager w := by
  rw [trial, trial, same]

private theorem trial_left : (Effect.final (trial launch directory manager w)).files =
    (Launch.mk (command directory manager) w.files).left launch := by
  unfold trial Launch.left
  cases launch (command directory manager) w.files with
  | error cause left => rfl
  | ok result left =>
    simp only [Work.query]
    cases judge manager result <;> rfl

theorem trial_of_success {result : CommandResult} (success : result.ending.isSuccess = true)
    (answers : launch (command directory manager) w.files = .ok result left) :
    trial launch directory manager w = .ok () ⟨left, w.journal⟩ := by
  simp only [trial, answers, Work.query, judge, success, if_true]

end Trial

/-- A preferred manager that is missing gives way to the fallback, in the files that its start left;
in all other cases there is one command. -/
theorem launches_cases (launch : Launcher) (directory : Path) (manager : String) (w : Workspace) :
    (∃ left, launch (command directory manager) w.files = .error .notFound left ∧
      manager = preferredManager ∧
      launches launch directory manager w.files =
        [⟨command directory manager, w.files⟩, ⟨command directory fallbackManager, left⟩] ∧
      attempt launch directory manager w =
        trial launch directory fallbackManager ⟨left, w.journal ++ [.fellBack]⟩) ∨
    (∀ left, launch (command directory manager) w.files = .error .notFound left →
      manager ≠ preferredManager) ∧
      launches launch directory manager w.files = [⟨command directory manager, w.files⟩] ∧
      attempt launch directory manager w = trial launch directory manager w := by
  have first : Install.start launch directory manager w =
      Work.onFiles (launch (command directory manager)) w := rfl
  simp only [attempt, launches, first, Work.onFiles]
  cases ended : launch (command directory manager) w.files with
  | ok result left => simp [trial, ended]
  | error cause left =>
    by_cases missing : cause = .notFound ∧ manager = preferredManager
    · obtain ⟨rfl, rfl⟩ := missing
      rw [trial_eq]
      exact .inl ⟨left, rfl, rfl, rfl, rfl⟩
    · refine .inr ⟨?_, ?_, ?_⟩
      · rintro left' ⟨⟩ same
        exact missing ⟨rfl, same⟩
      · cases cause <;> simp_all
      · simp only [if_neg missing, trial, ended]

/-- The commands are those of the manager and of the fallback. When a command that cannot be found
changes nothing, all of them find the files that the installation began with. -/
theorem of_mem_launches (listed : start ∈ launches launch directory manager w.files) :
    (start.command = command directory manager ∨
      manager = preferredManager ∧ start.command = command directory fallbackManager) ∧
      (launch.FindsFirst → start.files = w.files) := by
  rcases launches_cases launch directory manager w with
    ⟨left, missing, preferred, both, -⟩ | ⟨-, one, -⟩
  · rw [both] at listed
    rcases List.mem_pair.mp listed with rfl | rfl
    · exact ⟨.inl rfl, fun _ => rfl⟩
    · exact ⟨.inr ⟨preferred, rfl⟩, fun finds => finds _ _ _ missing⟩
  · rw [one] at listed
    obtain rfl := List.mem_singleton.mp listed
    exact ⟨.inl rfl, fun _ => rfl⟩

private theorem attempt_left (launch : Launcher) (directory : Path) (manager : String)
    (w : Workspace) :
    ∃ earlier last, launches launch directory manager w.files = earlier ++ [last] ∧
      (Effect.final (attempt launch directory manager w)).files = last.left launch := by
  rcases launches_cases launch directory manager w with
    ⟨left, -, -, both, same⟩ | ⟨-, one, same⟩
  · exact ⟨[_], _, both, same ▸ trial_left⟩
  · exact ⟨[], _, one, same ▸ trial_left⟩

private theorem attempt_congr (agree : ∀ start ∈ launches launch directory manager w.files,
    launch' start.command start.files = launch start.command start.files) :
    attempt launch' directory manager w = attempt launch directory manager w := by
  rcases launches_cases launch directory manager w with
    ⟨left, missing, preferred, both, same⟩ | ⟨stays, one, same⟩
  · rw [both] at agree
    have first := agree _ List.mem_cons_self
    have second := agree _ (List.mem_cons_of_mem _ List.mem_cons_self)
    rcases launches_cases launch' directory manager w with
      ⟨left', missing', -, -, same'⟩ | ⟨stays', -, -⟩
    · cases (missing'.symm.trans first).trans missing
      rw [same, same']
      exact trial_congr second
    · exact absurd preferred (stays' left (first.trans missing))
  · rw [one] at agree
    have first := agree _ List.mem_cons_self
    rcases launches_cases launch' directory manager w with
      ⟨left', missing', preferred, -, -⟩ | ⟨-, -, same'⟩
    · exact absurd preferred (stays left' (first.symm.trans missing'))
    · rw [same, same']
      exact trial_congr first

private theorem attempt_of_first_success {result : CommandResult}
    (success : result.ending.isSuccess = true)
    (answers : launch (command directory manager) w.files = .ok result left) :
    ∃ w', attempt launch directory manager w = .ok () w' ∧ w'.files = left := by
  rcases launches_cases launch directory manager w with ⟨left', missing, -⟩ | ⟨-, -, same⟩
  · cases answers.symm.trans missing
  · exact ⟨_, same.trans (trial_of_success success answers), rfl⟩

private theorem attempt_of_success {result : CommandResult}
    (listed : start ∈ launches launch directory manager w.files)
    (same : ∀ other : Launch, other ≠ start →
      launch' other.command other.files = launch other.command other.files)
    (success : result.ending.isSuccess = true)
    (answers : launch' start.command start.files = .ok result left) :
    ∃ w', attempt launch' directory manager w = .ok () w' ∧ w'.files = left := by
  rcases launches_cases launch directory manager w with
    ⟨between, missing, rfl, both, -⟩ | ⟨-, one, -⟩
  · rw [both] at listed
    rcases List.mem_pair.mp listed with rfl | rfl
    · exact attempt_of_first_success success answers
    · -- The preferred manager is still missing, since the fallback is another command.
      have first := same ⟨command directory preferredManager, w.files⟩ (by
        simp [command, preferredManager, fallbackManager])
      rcases launches_cases launch' directory preferredManager w with
        ⟨between', missing', -, -, ended⟩ | ⟨stays, -, -⟩
      · cases (missing'.symm.trans first).trans missing
        exact ⟨_, ended.trans (trial_of_success success answers), rfl⟩
      · exact absurd rfl (stays between (first.trans missing))
  · rw [one] at listed
    obtain rfl := List.mem_singleton.mp listed
    exact attempt_of_first_success success answers

/-- What is done to keep the log of an installation: directories are made on the way to the log, and
the file is written to which its path leads. In a directory without links these are the directory of
the log and the log. -/
structure KeepsLog (directory : Path) (before after : FileSystem) : Prop where
  works : WorksAt (· ∈ RenderStep.parents (logPath directory)) (fun _ => (· = logPath directory))
    before after
  below : WritesAt directory [".castui", "install.log"] before after

theorem KeepsLog.refl (fs : FileSystem) : KeepsLog directory fs fs :=
  ⟨WorksAt.refl fs, WritesAt.refl fs⟩

private theorem keeps_of_adapted {α β ε : Type} {x : FileAction α} {y : FileAction β}
    {f g : OsError → ε} {R : FileSystem → FileSystem → Prop}
    (h : Keeps (x.adaptExcept f >>= fun _ => y.adaptExcept g) R) : Keeps (x >>= fun _ => y) R := by
  constructor
  · intro s b t done
    obtain ⟨a, u, first, second⟩ := Effect.bind_eq_ok.mp done
    exact h.ok s b t (Effect.bind_eq_ok.mpr ⟨a, u, Effect.adaptExcept_eq_ok.mpr first,
      Effect.adaptExcept_eq_ok.mpr second⟩)
  · intro s e t failed
    rcases Effect.bind_eq_error.mp failed with first | ⟨a, u, first, second⟩
    · exact h.error s (f e) t (Effect.bind_eq_error.mpr (.inl
        (Effect.adaptExcept_eq_error.mpr ⟨e, first, rfl⟩)))
    · exact h.error s (g e) t (Effect.bind_eq_error.mpr (.inr ⟨a, u,
        Effect.adaptExcept_eq_ok.mpr first, Effect.adaptExcept_eq_error.mpr ⟨e, second, rfl⟩⟩))

private theorem writeLog_of_write {R : FileSystem → FileSystem → Prop}
    (h : Keeps (RenderStep.write path error.log).run R) : Keeps (writeLog path error) R := by
  rw [RenderStep.run, RenderStep.makeParent] at h
  unfold writeLog
  cases above : path.parent with
  | none =>
    rw [above] at h
    exact keeps_of_adapted (x := pure ()) (f := .writeRefused path) h
  | some parent =>
    rw [above] at h
    exact keeps_of_adapted h

private theorem writeLog_keepsLog :
    Keeps (writeLog (logPath directory) error) (KeepsLog directory) := by
  have place : logPath directory = directory.append [".castui", "install.log"] :=
    Path.child_append (by decide)
  have below : Keeps (RenderStep.write (logPath directory) error.log).run
      (WritesAt directory [".castui", "install.log"]) := by
    rw [place]
    exact RenderStep.write_writesAt (by decide) (by simp) _
  exact writeLog_of_write
    (((RenderStep.write_worksAt _).both below).mono fun _ _ ⟨works, below⟩ => ⟨works, below⟩)

private theorem keepLog_ok : ∃ w', keepLog (logPath directory) error w = .ok () w' ∧
    KeepsLog directory w.files w'.files := by
  have keeps : Keeps (Work.onFiles (writeLog (logPath directory) error))
      (Effect.OnFiles (KeepsLog directory)) := .onFiles writeLog_keepsLog
  unfold keepLog
  cases kept : Work.onFiles (writeLog (logPath directory) error) w with
  | ok done w' =>
    have kept := keeps.ok _ _ _ kept
    exact ⟨_, rfl, kept⟩
  | error cause w' =>
    have kept := keeps.error _ _ _ kept
    exact ⟨_, rfl, kept⟩

end Install

open Install (launches attempt KeepsLog)

variable {launch launch' : Launcher} {directory : Path} {manager : String} {w w' : Workspace}
  {start : Launch} {left : FileSystem}

theorem install_eq : install launch directory manager w =
    match attempt launch directory manager
      ⟨w.files, w.journal ++ [.installing manager directory]⟩ with
    | .ok () w => .ok () w
    | .error error w => (do
        Install.keepLog (Install.logPath directory) error
        throw error) w := rfl

/-- An installation that fails keeps the log of the very error that it ends with. -/
theorem install_of_error {error : InstallError} {attempted : Workspace}
    (ended : attempt launch directory manager
      ⟨w.files, w.journal ++ [.installing manager directory]⟩ = .error error attempted) :
    ∃ kept, Install.keepLog (Install.logPath directory) error attempted = .ok () kept ∧
      KeepsLog directory attempted.files kept.files ∧
      install launch directory manager w = .error error kept := by
  obtain ⟨kept, keeping, keeps⟩ := @Install.keepLog_ok directory error attempted
  refine ⟨kept, keeping, keeps, ?_⟩
  rw [install_eq, ended]
  exact Effect.bind_eq_error.mpr (.inr ⟨(), kept, keeping, rfl⟩)

/-- An installation leaves the files as its last command does, but that it keeps a log after a
failure. -/
theorem install_left (launch : Launcher) (directory : Path) (manager : String) (w : Workspace) :
    ∃ earlier last, launches launch directory manager w.files = earlier ++ [last] ∧
      (∀ w', install launch directory manager w = .ok () w' → w'.files = last.left launch) ∧
      ∀ error w', install launch directory manager w = .error error w' →
        KeepsLog directory (last.left launch) w'.files := by
  obtain ⟨earlier, last, listed, left⟩ := Install.attempt_left launch directory manager
    ⟨w.files, w.journal ++ [.installing manager directory]⟩
  refine ⟨earlier, last, listed, ?_⟩
  cases ended : attempt launch directory manager
      ⟨w.files, w.journal ++ [.installing manager directory]⟩ with
  | ok done attempted =>
    rw [ended] at left
    rw [install_eq, ended]
    refine ⟨fun w' h => ?_, fun error w' h => nomatch h⟩
    cases h
    exact left
  | error error attempted =>
    rw [ended] at left
    obtain ⟨kept, -, keeps, failed⟩ := install_of_error ended
    rw [failed]
    refine ⟨fun w' h => (nomatch h), fun error' w' h => ?_⟩
    cases h
    exact left ▸ keeps

theorem install_congr (agree : ∀ start ∈ launches launch directory manager w.files,
    launch' start.command start.files = launch start.command start.files) :
    install launch' directory manager w = install launch directory manager w := by
  have same := Install.attempt_congr
    (w := ⟨w.files, w.journal ++ [.installing manager directory]⟩) agree
  rw [install_eq, install_eq, same]

theorem install_of_success {result : CommandResult}
    (listed : start ∈ launches launch directory manager w.files)
    (same : ∀ other : Launch, other ≠ start →
      launch' other.command other.files = launch other.command other.files)
    (success : result.ending.isSuccess = true)
    (answers : launch' start.command start.files = .ok result left) :
    ∃ w', install launch' directory manager w = .ok () w' ∧ w'.files = left := by
  obtain ⟨w', ended, files⟩ := Install.attempt_of_success
    (w := ⟨w.files, w.journal ++ [.installing manager directory]⟩) listed same success answers
  exact ⟨w', by rw [install_eq, ended], files⟩

end UiScaffold
