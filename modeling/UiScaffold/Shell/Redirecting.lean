import UiScaffold.Shell.Expansion

/-!
Redirecting descriptors.

All names are filled in first; then the redirections are made one after the other. Some paths name
devices, which give nothing and keep nothing, or another descriptor.
-/

set_option autoImplicit false
set_option relaxedAutoImplicit false

namespace UiScaffold.Shell

/-- Why a file could not be opened, in the words of the shell. -/
def openProblem (missing : String) : OsError → String
  | .notFound | .notADirectory => missing
  | .permissionDenied => "Permission denied"
  | .alreadyExists => "File exists"
  | .isADirectory => "Is a directory"
  | .nameTooLong => "File name too long"
  | .tooManyLinks => "Too many levels of symbolic links"
  | .notExecutableFormat => "Exec format error"
  | .nulInPath | .nulInCommand | .notText => "Invalid argument"

/-- What is said of a file that is missing when it is read, made or run. -/
def missingToRead : String := "No such file"
def missingToMake : String := "Directory nonexistent"
def missingToRun : String := "not found"

/-- A file of the system that is no file. -/
inductive Device where
  | nothing
  | descriptor (number : Nat)

def device? (path : String) : Option Device :=
  match path with
  | "/dev/null" => some .nothing
  | "/dev/stdin" => some (.descriptor inputDescriptor)
  | "/dev/stdout" => some (.descriptor outputDescriptor)
  | "/dev/stderr" => some (.descriptor errorDescriptor)
  | _ =>
    match path.toList with
    | '/' :: 'd' :: 'e' :: 'v' :: '/' :: 'f' :: 'd' :: '/' :: digits =>
      if digits ≠ [] ∧ digits.all Char.isDigit then some (.descriptor (digitsValue 10 digits))
      else none
    | _ => none

/-- How a file is opened. -/
structure Opening where
  creates : Bool
  empties : Bool
  atEnd : Bool
  isWritable : Bool

namespace Opening

def source : Opening := ⟨false, false, false, false⟩

/-- To be written from the start, or behind its end. -/
def sink : Opening := ⟨true, true, false, true⟩
def extended : Opening := ⟨true, false, true, true⟩

def bothWays : Opening := ⟨true, false, false, true⟩

end Opening

def openFile (opening : Opening) (path : Path) : FileAction Stream := do
  let entry ← fun fs =>
    match fs.status path with
    | .ok entry => .ok (some entry) fs
    | .error .notFound => .ok none fs
    | .error e => .error e fs
  match entry with
  | some .directory =>
    if opening.isWritable then throw .isADirectory else return .nothing false
  | some _ => if opening.empties then FileAction.store path ByteArray.empty false
  | none =>
    if !opening.creates then throw .notFound
    FileAction.store path ByteArray.empty false
  let location ← FileAction.ask (·.locate path)
  return .file location 0 opening.atEnd opening.isWritable

/-- A redirection with its name filled in. -/
inductive Redirected where
  | file (opening : Opening) (keeps : Bool) (name : String)
  | descriptor (number : Nat)
  | closed
  | text (contents : String)

namespace Run

def fillDestination (substitute : Substitution) : Destination → Run Redirected
  | .source name => return .file .source false (← expandWhole substitute name)
  | .sink name => return .file .sink (← hasOption 'C') (← expandWhole substitute name)
  | .replaced name => return .file .sink false (← expandWhole substitute name)
  | .extended name => return .file .extended false (← expandWhole substitute name)
  | .bothWays name => return .file .bothWays false (← expandWhole substitute name)
  | .descriptor name => do
    match (← expandWhole substitute name).toList with
    | ['-'] => return .closed
    | [c] => if c.isDigit then return .descriptor (c.toNat - '0'.toNat) else failDescriptor
    | _ => failDescriptor
  | .document index => do
    let word := ((← get).documents[index]?).getD []
    return .text (Grain.text (← fillPieces substitute false false word))
where
  /-- Refuses what is no descriptor. -/
  failDescriptor : Run Redirected := do
    modify fun state => { state with line := state.readTo }
    fail (SyntaxFault.message .badDescriptor)

def connect (descriptor stream : Nat) : Run Unit := modify fun state =>
  { state with descriptors := state.descriptors.set descriptor stream }

def connectNew (descriptor : Nat) (stream : Stream) : Run Unit := do
  connect descriptor (← onWorld (·.openStream stream))

def duplicate (descriptor source : Nat) : Run Unit := do
  match (← get).descriptors.lookup source with
  | some stream => connect descriptor stream
  | none => fail (source.repr ++ ": Bad file descriptor")

def failToOpen {α : Type} (opening : Opening) (name : String) (error : OsError) : Run α :=
  if opening.creates then
    fail ("cannot create " ++ name ++ ": " ++ openProblem missingToMake error)
  else fail ("cannot open " ++ name ++ ": " ++ openProblem missingToRead error)

/-- Opens a device for a descriptor. What leads to a file is opened anew. -/
def connectDevice (opening : Opening) (descriptor : Nat) (name : String) : Device → Run Unit
  | .nothing => connectNew descriptor (.nothing opening.isWritable)
  | .descriptor number => do
    let state ← get
    match state.descriptors.lookup number with
    | none => failToOpen opening name .notFound
    | some stream =>
      match state.world.streams[stream]? with
      | some (.file location _ _ _) =>
        if opening.empties then modify fun state =>
          { state with world := state.world.setContents location ByteArray.empty }
        connectNew descriptor (.file location 0 opening.atEnd opening.isWritable)
      | _ => connect descriptor stream

def redirect (descriptor : Nat) : Redirected → Run Unit
  | .file opening keeps name => do
    match device? name with
    | some device => connectDevice opening descriptor name device
    | none =>
      if keeps && (← get).world.files.isFile (pathOf name) then
        failToOpen opening name .alreadyExists
      match ← onFiles (openFile opening (pathOf name)) with
      | .ok stream => connectNew descriptor stream
      | .error e => failToOpen opening name e
  | .descriptor number => duplicate descriptor number
  | .closed => modify fun state => { state with descriptors := state.descriptors.close descriptor }
  | .text contents => connectNew descriptor (.buffer (gather contents))

/-- Makes redirections; the result tells whether all could be made. -/
def redirectAll (redirections : List (Nat × Redirected)) : Run Bool := do
  match ← attempt (redirections.forM fun (descriptor, redirected) =>
      redirect descriptor redirected) with
  | .ok () => return true
  | .error .fault => return false
  | .error departure => throw departure

def fillRedirections (substitute : Substitution) (redirections : List Redirection) :
    Run (List (Nat × Redirected)) :=
  redirections.mapM fun redirection => do
    return (redirection.descriptor, ← fillDestination substitute redirection.destination)

/-- Does something and leads the descriptors back to where they led before. -/
def keepingDescriptors {α : Type} (run : Run α) : Run α := do
  let descriptors := (← get).descriptors
  andThen run (modify fun state => { state with descriptors })

end Run

end UiScaffold.Shell
