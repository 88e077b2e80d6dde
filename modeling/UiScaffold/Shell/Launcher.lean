import UiScaffold.Install.Command
import UiScaffold.Shell.Session

/-!
Starting commands among the files of a file system.

A command that is named by a path is that file; any other one is looked for in the directories of
the search path. Its input is empty, and what it writes is collected.
-/

set_option autoImplicit false
set_option relaxedAutoImplicit false

namespace UiScaffold.Shell

def hasNul (text : String) : Bool := text.toList.contains '\x00'

/-- The streams of a command that is started: no input, and a buffer for each of the two outputs. -/
def collecting (files : FileSystem) : World × Descriptors :=
  ({ files, streams := #[.nothing false, .buffer ByteArray.empty, .buffer ByteArray.empty]
     processes := 0, signals := [] },
    [(inputDescriptor, 0), (outputDescriptor, 1), (errorDescriptor, 2)])

def Conclusion.ending : Conclusion → Ending
  | exited status => .exited status
  | killed _ => .killed

def findAndRun (environment : List (String × String)) (words : List String) :
    FileAction CommandResult := fun fs =>
  let (world, descriptors) := collecting fs
  let invocation := ⟨words, environment, descriptors, world.processes⟩
  match startFound starter ((environment.lookup pathName).getD "") invocation world with
  | .error e => .error e fs
  | .ok (conclusion, world) =>
    .ok ⟨conclusion.ending, world.bytesIn 1, world.bytesIn 2⟩ world.files

/-- Starts commands with the given environment. The working directory is the same again
afterwards. -/
def launcher (environment : List (String × String)) : Launcher := fun command =>
  if hasNul command.program || command.arguments.any hasNul || hasNul command.directory.text then
    throw .nulInCommand
  else fun fs =>
    let home := fs.workingDirectory
    let run : FileAction CommandResult := do
      Run.enterDirectory command.directory
      findAndRun (environment.map fun (name, value) => (spread name, spread value))
        ((command.program :: command.arguments).map spread)
    match run fs with
    | .ok result fs => .ok result { fs with workingDirectory := home }
    | .error e fs => .error e { fs with workingDirectory := home }

end UiScaffold.Shell
