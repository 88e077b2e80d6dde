import UiScaffold.Shell.Condition
import UiScaffold.Shell.Format
import UiScaffold.Shell.Input
import UiScaffold.Shell.Program

/-!
The commands of the shell that run no other commands.
-/

set_option autoImplicit false
set_option relaxedAutoImplicit false

namespace UiScaffold.Shell

def plainCommands : List String :=
  ["[", "alias", "bg", "cd", "chdir", "command", "echo", "false", "fg", "getopts", "hash", "jobs",
    "kill", "printf", "pwd", "read", "test", "true", "type", "ulimit", "umask", "unalias", "wait"]

/-- The paths of a directory of the system that exist although no file stands there. -/
def isSystemProgram (path : String) : Bool := (utility? path).isSome

def locationText (location : Location) : String := spread ("/" ++ "/".intercalate location)

/-- A number in octal digits, four of them at least. -/
def octalText (n : Nat) : String :=
  let digits := Nat.toDigits 8 n
  String.ofList (List.replicate (4 - digits.length) '0' ++ digits)

/-- The rights that a mask leaves, in letters. -/
def maskLetters (mask : Nat) : String :=
  let rights (shift : Nat) : String :=
    let bits := mask / shift % 8
    String.ofList ((if bits / 4 % 2 = 0 then ['r'] else []) ++
      (if bits / 2 % 2 = 0 then ['w'] else []) ++ (if bits % 2 = 0 then ['x'] else []))
  "u=" ++ rights 64 ++ ",g=" ++ rights 8 ++ ",o=" ++ rights 1

/-- Where a program is that the shell has found or not found. -/
inductive Whereabouts where
  | found (path : String)
  | missing (error : OsError)

/-- Looks for a program as the shell does: the first file with the name counts. -/
def locateProgram (files : FileSystem) (error : OsError) : List String → Whereabouts
  | [] => .missing error
  | path :: rest =>
    if isSystemProgram path then .found path
    else match files.status (pathOf path) with
      | .ok (.file ..) => .found path
      | .ok _ => locateProgram files .permissionDenied rest
      | .error .notFound | .error .notADirectory => locateProgram files error rest
      | .error e => locateProgram files e rest

def killUsage : String :=
  "Usage: kill [-s sigspec | -signum | -sigspec] [pid | job]... or\nkill -l [exitstatus]"

namespace Run

def runEcho (arguments : List String) : Run Unit := do
  setStatus 0
  print (String.ofList ((echo arguments).map fun byte => Char.ofNat byte.toNat))

/-- Carries out `printf`. Complaints come before the output. -/
def runPrintf (arguments : List String) : Run Unit := do
  let (_, rest) ← takeLetters [] arguments
  match rest with
  | [] => fail "usage: printf format [arg ...]"
  | text :: values =>
    let (output, complaints, stop?) := format text values
    complaints.forM complain
    setStatus (if complaints.isEmpty then 0 else 1)
    match stop?.bind FormatStop.message? with
    | some message =>
      complain message
      print output
      setStatus 2
      throw .fault
    | none => print output

def runTest (words : List String) : Run Unit := do
  match holds? (← get).world.files words with
  | .ok answer => setTruth answer
  | .error fault => fail fault.message

def runBracket (words : List String) : Run Unit :=
  if words.getLast? = some "]" then runTest words.dropLast
  else fail ConditionFault.missingBracket.message

def enterDirectory (path : Path) : FileAction Unit := do
  let location ← FileAction.ask (·.locateDirectory path)
  modify fun fs => { fs with workingDirectory := location }

def runChangeDirectory (arguments : List String) : Run Unit := do
  setStatus 0
  let (_, rest) ← takeLetters ['L', 'P'] arguments
  let home ← valueOf homeName
  let former ← valueOf formerDirectoryName
  let target := match rest with
    | [] => home.getD ""
    | "-" :: _ => former.getD ""
    | word :: _ => word
  let before := locationText (← get).world.files.workingDirectory
  if target ≠ "" then
    match ← onFiles (enterDirectory (pathOf target)) with
    | .ok () => pure ()
    | .error _ => fail ("can't cd to " ++ target)
  let after := locationText (← get).world.files.workingDirectory
  assign formerDirectoryName before
  assign directoryName after
  if rest.head? = some "-" then print (after ++ "\n")

def runDirectory (arguments : List String) : Run Unit := do
  setStatus 0
  let _ ← takeLetters ['L', 'P'] arguments
  print (locationText (← get).world.files.workingDirectory ++ "\n")

def runMask (arguments : List String) : Run Unit := do
  setStatus 0
  let (letters, rest) ← takeLetters ['S'] arguments
  match rest with
  | [] =>
    let mask := (← get).mask
    print ((if letters = [] then octalText mask else maskLetters mask) ++ "\n")
  | word :: _ =>
    if !(word.toList.head?.map Char.isDigit).getD false then fail ("Illegal mode: " ++ word)
    if !word.toList.all isOctal then fail ("Illegal number: " ++ word)
    modify fun state => { state with mask := digitsValue 8 word.toList % 512 }

def meaning (name : String) (brief : Bool) : Run (Option String) := do
  let state ← get
  let searchPath := (← valueOf pathName).getD ""
  if keywords.contains name then
    return some (if brief then name else name ++ " is a shell keyword")
  else if (state.functions.lookup name).isSome then
    return some (if brief then name else name ++ " is a shell function")
  else if specialCommands.contains name then
    return some (if brief then name else name ++ " is a special shell builtin")
  else if plainCommands.contains name then
    return some (if brief then name else name ++ " is a shell builtin")
  else
    let places := if '/' ∈ name.toList then [name] else candidates searchPath name
    match locateProgram state.world.files .notFound places with
    | .found path => return some (if brief then path else name ++ " is " ++ path)
    | .missing _ => return none

def describe (brief : Bool) : List String → Run Unit
  | [] => return ()
  | name :: rest => do
    match ← meaning name brief with
    | some text => print (text ++ "\n")
    | none =>
      if !brief then print (name ++ ": not found\n")
      setStatus 127
    describe brief rest

def runType (names : List String) : Run Unit := do
  setStatus 0
  describe false names

def runCommand (arguments : List String) : Run Unit := do
  setStatus 0
  let (letters, rest) ← takeLetters ['p', 'v', 'V'] arguments
  let names := rest.take 1
  if letters.contains 'V' then describe false names
  else if letters.contains 'v' then describe true names

def signal (number process : Nat) : Run Bool := do
  let state ← get
  if process = state.process then
    if number ≠ 0 then
      if state.isCopy then modify fun state =>
        { state with world := { state.world with
            signals := state.world.signals ++ [(process, number)] } }
      else take number
    return true
  else return state.jobs.any (·.1 == process)
where
  take (number : Nat) : Run Unit := do
    let state ← get
    let action? := if number = Signal.kill then none else state.traps.lookup number
    match action? with
    | some "" => return ()
    | some _ => modify fun state => { state with pending := state.pending ++ [number] }
    | none => if Signal.effect number = .ends then throw (.killed number)

/-- Takes the signals that came from copies of the shell. -/
def takeSignals : Run Unit := do
  let state ← get
  if !state.isCopy then
    let own := state.world.signals.filter (·.1 == state.process)
    let others := state.world.signals.filter (·.1 ≠ state.process)
    set { state with world := { state.world with signals := others } }
    own.forM fun (_, number) => signal.take number

def signalAll (number : Nat) : List String → Run Unit
  | [] => return ()
  | word :: rest => do
    if word.toList.head? = some '%' then fail ("No such job: " ++ word)
    match count? word with
    | none => fail ("Illegal number: " ++ word)
    | some process =>
      if !(← signal number process) then
        complain "No such process\n"
        setStatus 1
      signalAll number rest

def listSignals : List String → Run Unit
  | [] => print (String.join (("0" :: Signal.names).map (· ++ "\n")))
  | word :: _ =>
    match count? word with
    | none => fail ("Illegal number: " ++ word)
    | some status =>
      let number := if 128 < status then status - 128 else status
      if number = 0 ∨ Signal.names.length < number then
        fail ("invalid signal number or exit status: " ++ word)
      else print (Signal.name number ++ "\n")

/-- The signal that a word names for `kill`, where the end of a shell is none. -/
def signalNumber (word : String) : Run Nat := do
  match Signal.ofText? word with
  | some number =>
    if number = 0 ∧ !word.toList.all Char.isDigit = true then
      fail ("invalid signal number or name: " ++ word)
    else return number
  | none => fail ("invalid signal number or name: " ++ word)

/-- Sends a signal to the processes that words name, of which there must be one. -/
def signalSome (number : Nat) (words : List String) : Run Unit :=
  if words = [] then fail killUsage else signalAll number words

def runKill (arguments : List String) : Run Unit := do
  setStatus 0
  match arguments with
  | [] => fail killUsage
  | word :: rest =>
    match word.toList with
    | ['-', '-'] => signalSome Signal.terminate rest
    | '-' :: first :: more =>
      match Signal.ofText? (String.ofList (first :: more)) with
      | some number => signalSome number (match rest with
        | "--" :: others => others
        | _ => rest)
      | none =>
        let (options, others) ← takeOptions ['l'] ['s'] (arguments.length + 1) arguments
        if options.any (·.1 == 'l') then listSignals others
        else
          let name := ((options.reverse.find? (·.1 == 's')).map (·.2)).getD ""
          signalSome (← signalNumber name) others
    | _ => signalSome Signal.terminate (word :: rest)

/-- Carries out `wait`. What runs in the background has always ended already. -/
def runWait (words : List String) : Run Unit := do
  setStatus 0
  words.forM fun word => do
    if word.toList.head? = some '%' then fail ("No such job: " ++ word)
    match count? word with
    | none => fail ("Illegal number: " ++ word)
    | some process => setStatus (((← get).jobs.lookup process).getD 127)

def runHash (arguments : List String) : Run Unit := do
  setStatus 0
  let (_, rest) ← takeLetters ['r'] arguments
  rest.forM fun name => do
    if (← meaning name true).isNone then
      complain (name ++ ": not found")
      setStatus 1

/-- Shows the texts that stand for names of commands, or sets them. -/
def runAlias : List String → Run Unit
  | [] => do
    let aliases := (← get).aliases.mergeSort fun a b => Pattern.precedes a.1.toList b.1.toList
    print (String.join (aliases.map showAlias))
    setStatus 0
  | words => do
    setStatus 0
    words.forM fun word => do
      match nameAndValue word with
      | (name, some text) => modify fun state =>
        { state with aliases := (name, text) :: state.aliases.filter (·.1 ≠ name) }
      | (name, none) =>
        match (← get).aliases.lookup name with
        | some text => print (showAlias (name, text))
        | none =>
          let _ ← write errorDescriptor (gather ("alias: " ++ name ++ " not found\n"))
          setStatus 1
where
  showAlias : String × String → String
    | (name, text) => name ++ "=" ++ quotedText text ++ "\n"

def runUnalias (arguments : List String) : Run Unit := do
  setStatus 0
  let (letters, rest) ← takeLetters ['a'] arguments
  if letters ≠ [] then modify fun state => { state with aliases := [] }
  else rest.forM fun name => do
    if ((← get).aliases.lookup name).isNone then
      let _ ← write errorDescriptor (gather ("unalias: " ++ name ++ " not found\n"))
      setStatus 1
    modify fun state => { state with aliases := state.aliases.filter (·.1 ≠ name) }

/-- Carries out a command on jobs, of which there is none. -/
def runJob : Run Unit := fail "No current job"

/-- Carries out `times`. No time counts. -/
def runTimes : Run Unit := do
  setStatus 0
  print "0m0.000000s 0m0.000000s\n0m0.000000s 0m0.000000s\n"

def runLimit : Run Unit := do
  setStatus 0
  print "unlimited\n"

/-- The commands of the shell that run no others, by their names. -/
def builtin? (name : String) : Option (List String → Run Unit) :=
  match name with
  | ":" | "true" => some fun _ => setStatus 0
  | "false" => some fun _ => setStatus 1
  | "echo" => some runEcho
  | "printf" => some runPrintf
  | "test" => some runTest
  | "[" => some runBracket
  | "cd" | "chdir" => some runChangeDirectory
  | "pwd" => some runDirectory
  | "umask" => some runMask
  | "type" => some runType
  | "command" => some runCommand
  | "kill" => some runKill
  | "wait" => some runWait
  | "hash" => some runHash
  | "alias" => some runAlias
  | "unalias" => some runUnalias
  | "jobs" => some fun _ => setStatus 0
  | "fg" | "bg" => some fun _ => runJob
  | "times" => some fun _ => runTimes
  | "ulimit" => some fun _ => runLimit
  | "set" => some runSet
  | "export" => some runExport
  | "readonly" => some runReadOnly
  | "local" => some runLocal
  | "unset" => some runUnset
  | "shift" => some runShift
  | "read" => some runRead
  | "getopts" => some runGetOptions
  | "trap" => some runTrap
  | _ => none

end Run

end UiScaffold.Shell
