import UiScaffold.CommandLine.Run
import UiScaffold.Shell.Launcher

/-!
The program: takes a picture of the files that a command line is about, runs the command line on the
picture, and stores what has changed.
-/

set_option autoImplicit false
set_option relaxedAutoImplicit false

namespace UiScaffold.Main

def spelling (location : Location) : String := "/" ++ "/".intercalate location

def locationOf (text : String) : Location := (Text.split '/' text).filter (· ≠ "")

/-- The location that a path spells, without a look at links. -/
def destination (base : Location) (path : Path) : Location :=
  path.steps.foldl (fun location step => match step with
    | .stay => location
    | .up => location.dropLast
    | .enter name => location ++ [name]) (if path.isAbsolute then [] else base)

/-- Reads what stands at a location, and everything below it on demand. A file counts as executable
if it is a script. -/
partial def load (deep : Bool) (fs : FileSystem) (location : Location) : IO FileSystem := do
  if !deep && (fs.get? location).isSome then return fs
  try
    let place ← IO.FS.realPath (spelling location)
    let real := locationOf place.toString
    if real ≠ location then
      let fs := fs.put location (.link (.absolute real))
      let fs ← (List.range real.length).foldlM (fun fs n => load false fs (real.take (n + 1))) fs
      load deep fs real
    else if ← place.isDir then
      let fs := fs.put location .directory
      if !deep then return fs
      let entries ← place.readDir
      entries.foldlM (fun fs entry => load true fs (location ++ [entry.fileName])) fs
    else
      let contents ← IO.FS.readBinFile place
      return fs.put location (.file contents ((Shell.spreadBytes contents).take 2 == ['#', '!']))
  catch _ => return fs

/-- Reads what a path leads to, and the directories on the way to it. -/
def loadPath (fs : FileSystem) (path : Path) : IO FileSystem := do
  let location := destination fs.workingDirectory path
  let fs ← (List.range location.length).foldlM
    (fun fs n => load false fs (location.take (n + 1))) fs
  load true fs location

/-- The paths that a command line is about. -/
def pathsOf (home : Option Path) (request : Request) : List Path :=
  match request with
  | .work task templates _ =>
    let roots := match templates, home with
      | some root, _ => [root]
      | none, some home =>
        [home.append ["templates"], home.append ["..", "share", "castui", "templates"],
          .ofText "templates"]
      | none, none => [.ofText "templates"]
    match task with
    | .listTemplates => roots
    | .generate invocation => roots ++ [invocation.descriptor, invocation.output]
  | _ => []

def isStored (fs : FileSystem) (location : Location) : Entry → Bool
  | .directory => fs.hasDirectory location
  | .file contents _ =>
    match fs.get? location with
    | some (.file stored _) => stored == contents
    | _ => false
  | .link _ => true

def store (before after : FileSystem) : IO Unit := do
  for (location, entry) in after.entries do
    if !isStored before location entry then
      match entry with
      | .directory => IO.FS.createDirAll (spelling location)
      | .file contents _ => IO.FS.writeBinFile (spelling location) contents
      | .link _ => pure ()

/-- The time of the clock, taken from a file that is made and removed again. -/
def clock : IO Instant := do
  let (_, place) ← IO.FS.createTempFile
  let time := (← place.metadata).modified
  IO.FS.removeFile place
  return ⟨time.sec, time.nsec.toNat⟩

def environment : IO (List (String × String)) := do
  let names := ["PATH", "RUST_LOG", "NO_COLOR", "CLICOLOR_FORCE"] ++
    Switch.all.filterMap Switch.environmentName?
  let found ← names.mapM fun name => return (← IO.getEnv name).map fun value => (name, value)
  return found.filterMap id

end UiScaffold.Main

open UiScaffold in
def main (arguments : List String) : IO UInt32 := do
  let environment ← Main.environment
  let home := (Path.ofText (← IO.appPath).toString).parent
  let surroundings : Surroundings :=
    { environment, home, now := ← Main.clock, launch := Shell.launcher environment }
  let here := FileSystem.empty (Main.locationOf (← IO.currentDir).toString)
  let before ← match Request.read arguments environment with
    | .ok request => (Main.pathsOf home request).foldlM Main.loadPath here
    | .error _ => pure here
  let (report, after) := CommandLine.run surroundings arguments before
  Main.store before after
  IO.print report.output
  IO.eprint report.errors
  return UInt32.ofNat report.status
