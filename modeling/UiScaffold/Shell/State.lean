import UiScaffold.Shell.Bytewise
import UiScaffold.Shell.Reader
import UiScaffold.Shell.Stream

/-!
What a running shell knows, and how a run can leave the order of its commands.
-/

set_option autoImplicit false
set_option relaxedAutoImplicit false

namespace UiScaffold.Shell

/-- A variable of the shell; one without a value is only marked. -/
structure Variable where
  value : Option String
  isExported : Bool
  isReadOnly : Bool
deriving DecidableEq, Repr

abbrev Bindings := List (String × Variable)

/-- A function that is at work: the variables that get their old values back after it. -/
abbrev Frame := List (String × Option Variable)

/-- What a shell knows. -/
structure State where
  world : World
  descriptors : Descriptors
  bindings : Bindings
  functions : List (String × Statement)
  /-- The name of the script, and its arguments or those of the function at work. -/
  name : String
  arguments : List String
  /-- The status of the last command, and that of the last substitution within this one. -/
  status : Nat
  substituted : Nat
  /-- The letters of the options that are on. -/
  options : List Char
  /-- The line of the command at work, and the line that has been read. -/
  line : Nat
  readTo : Nat
  /-- The command of the shell that is at work, if complaints name it. -/
  command : Option String
  /-- How many loops are at work here. -/
  loops : Nat
  frames : List Frame
  /-- What is run on signals, and at the end of the shell as on the signal zero. -/
  traps : List (Nat × String)
  /-- The signals that came and were not handled yet. -/
  pending : List Nat
  documents : List Word
  /-- The texts that stand for names of commands. -/
  aliases : List (String × String)
  /-- The processes that ran in the background, with their status, the last one first. -/
  jobs : List (Nat × Nat)
  /-- The process of the script, and whether this is a copy of its shell. -/
  process : Nat
  isCopy : Bool
  /-- The status that the shell ends with if what is run at its end does not choose one. -/
  finalStatus : Option Nat
  mask : Nat
  /-- Where the next option is looked for, and how many of its letters are done. -/
  optionPlace : Nat
  optionOffset : Nat

/-- How a run leaves the order of its commands. -/
inductive Departure where
  /-- The shell ends. -/
  | exit
  /-- Something failed that ends the shell, unless a command of the shell contains it. -/
  | fault
  /-- A signal ends the shell. -/
  | killed (signal : Nat)
  /-- Loops are left, or the last of them goes on; the number counts the loops. -/
  | leave (levels : Nat)
  | again (levels : Nat)
  /-- The function at work ends. -/
  | back
  /-- The run is longer than a run may be. -/
  | exhausted
deriving DecidableEq, Repr

abbrev Run := EStateM Departure State

/-- Runs a statement; the flag tells whether somebody asks if it fails. -/
abbrev Evaluator := Bool → Statement → Run Unit

/-- The descriptors for what is read, written and complained about. -/
def inputDescriptor : Nat := 0
def outputDescriptor : Nat := 1
def errorDescriptor : Nat := 2

/-- The variables that separate words, hold the search path and the home directory, and so on. -/
def separatorsName : String := "IFS"
def pathName : String := "PATH"
def homeName : String := "HOME"
def directoryName : String := "PWD"
def formerDirectoryName : String := "OLDPWD"
def optionIndexName : String := "OPTIND"
def optionArgumentName : String := "OPTARG"

namespace Run

/-- Does something, then something else however the first has ended. -/
def andThen {α : Type} (run : Run α) (after : Run Unit) : Run α := fun state =>
  match run state with
  | .ok a state =>
    match after state with
    | .ok () state => .ok a state
    | .error departure state => .error departure state
  | .error departure state =>
    match after state with
    | .ok () state => .error departure state
    | .error other state => .error other state

/-- How something ends, as a value. -/
def attempt {α : Type} (run : Run α) : Run (Except Departure α) := fun state =>
  match run state with
  | .ok a state => .ok (.ok a) state
  | .error departure state => .ok (.error departure) state

def setStatus (status : Nat) : Run Unit := modify fun state => { state with status }

def setTruth (holds : Bool) : Run Unit := setStatus (if holds then 0 else 1)

def onWorld {α : Type} (change : World → α × World) : Run α := fun state =>
  let (a, world) := change state.world
  .ok a { state with world }

def onFiles {α : Type} (action : FileAction α) : Run (Except OsError α) :=
  onWorld fun world =>
    match action world.files with
    | .ok a files => (.ok a, { world with files })
    | .error e files => (.error e, { world with files })

/-- Writes bytes to a descriptor; the result tells whether it took them. -/
def write (descriptor : Nat) (bytes : ByteArray) : Run Bool := fun state =>
  if bytes.size = 0 then .ok true state
  else match (state.descriptors.lookup descriptor).bind (state.world.write? · bytes) with
    | some world => .ok true { state with world }
    | none => .ok false state

def complain (text : String) : Run Unit := do
  let state ← get
  let command := match state.command with
    | some command => command ++ ": "
    | none => ""
  let _ ← write errorDescriptor
    (gather (state.name ++ ": " ++ state.line.repr ++ ": " ++ command ++ text ++ "\n"))

def fail {α : Type} (text : String) : Run α := do
  complain text
  setStatus 2
  throw .fault

def hasOption (letter : Char) : Run Bool := return (← get).options.contains letter

def valueOf (name : String) : Run (Option String) :=
  return ((← get).bindings.lookup name).bind (·.value)

def putVariable (name : String) (entry : Variable) : Run Unit := modify fun state =>
  { state with bindings := (name, entry) :: state.bindings.filter (·.1 ≠ name) }

def dropVariable (name : String) : Run Unit := modify fun state =>
  { state with bindings := state.bindings.filter (·.1 ≠ name) }

def assign (name value : String) : Run Unit := do
  if !isName name then fail (name ++ ": bad variable name")
  let before := ((← get).bindings.lookup name).getD ⟨none, false, false⟩
  if before.isReadOnly then fail (name ++ ": is read only")
  let isExported := before.isExported || (← hasOption 'a')
  putVariable name { before with value := some value, isExported }
  if name = optionIndexName then modify fun state =>
    { state with optionPlace := (value.toNat?).getD 1, optionOffset := 0 }

/-- The characters that separate words, unless none are set. -/
def separators? : Run (Option String) := valueOf separatorsName

end Run

def usualSeparators : String := " \t\n"

end UiScaffold.Shell
