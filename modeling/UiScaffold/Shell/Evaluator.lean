import UiScaffold.Shell.Builtin

/-!
Running statements.

One step of the evaluation runs a statement with the help of an evaluator for the statements in it;
the evaluator itself is the step repeated as often as it may be. A copy of the shell shares files
and streams with it and nothing else.
-/

set_option autoImplicit false
set_option relaxedAutoImplicit false

namespace UiScaffold.Shell

namespace Run

/-- How many rounds a loop may go, and how deep statements may run other statements. -/
def maxRounds : Nat := 1000000
def maxDepth : Nat := 4000

def showLines (text rest : List Char) : Run Unit := do
  let taken := text.length - rest.length
  let ending := if (text.take taken).getLast? = some '\n' then [] else rest.takeWhile (· ≠ '\n')
  let _ ← write errorDescriptor (gather (String.ofList (text.take taken ++ ending)))

/-- Runs the lines of a text one after the other; `isFile` tells whether they stand in a file. -/
def runLines (evaluate : Evaluator) (tested isFile : Bool) : Nat → Bool → Source → Run Unit
  | 0, _, _ => throw .exhausted
  | fuel + 1, isFirst, source => do
    let state ← get
    let showsLines := isFile && (← hasOption 'v')
    match readLine { source with documents := state.documents, aliases := state.aliases } with
    | .error misreading after =>
      if showsLines then showLines source.rest after.rest
      modify fun state => { state with line := misreading.line, readTo := misreading.line }
      fail misreading.fault.message
    | .ok none after =>
      if showsLines then showLines source.rest after.rest
      modify fun state => { state with documents := after.documents }
      if isFirst then setStatus 0
    | .ok (some statement) after =>
      if showsLines then showLines source.rest after.rest
      modify fun state => { state with documents := after.documents, readTo := after.line }
      match statement with
      | .nothing => runLines evaluate tested isFile fuel isFirst after
      | _ =>
        evaluate tested statement
        runLines evaluate tested isFile fuel false after

def runText (evaluate : Evaluator) (tested isFile : Bool) (text : List Char) : Run Unit := do
  let readTo := (← get).readTo
  andThen (runLines evaluate tested isFile (text.length + 2) true (Source.ofText text 1))
    (modify fun state => { state with readTo })

/-- Runs something to the end of a shell: what is set for the end is run then. -/
def conclude (evaluate : Evaluator) (run : Run Unit) (start : State) : Conclusion × State :=
  match run start with
  | .error (.killed signal) state => (.killed signal, state)
  | .error .exhausted state => (.killed Signal.kill, state)
  | .ok () state | .error _ state =>
    match state.traps.lookup 0 with
    | none => (.exited state.status, state)
    | some text =>
      let ending : Run Unit := do
        setTrap 0 none
        modify fun state =>
          { state with finalStatus := some state.status, command := none, loops := 0 }
        runText evaluate false false text.toList
      -- What is run at the end chooses the status only by leaving the shell itself.
      match ending state with
      | .error .exit after => (.exited after.status, after)
      | .error (.killed signal) after => (.killed signal, after)
      | .ok () after | .error _ after => (.exited state.status, after)

def statusOf : Conclusion → Nat
  | .exited status => status % 256
  | .killed signal => 128 + signal

def apart (evaluate : Evaluator) (run : Run Unit) : Run Nat := do
  let outer ← get
  let inner := { outer with
    isCopy := true, traps := outer.traps.filter (·.2 == ""), pending := [], jobs := []
    finalStatus := none }
  let (conclusion, after) := conclude evaluate run inner
  let home := outer.world.files.workingDirectory
  -- Files that the copy has changed stay changed, but not the directory that it went to.
  set { outer with world := { after.world with
    files := { after.world.files with workingDirectory := home } } }
  takeSignals
  return statusOf conclusion

/-- The text of what was written, without the line ends behind it. -/
def withoutLineEnds (bytes : ByteArray) : String :=
  let chars := (spreadBytes bytes).filter (· ≠ '\x00')
  String.ofList (chars.reverse.dropWhile (· == '\n')).reverse

def substitute (evaluate : Evaluator) : Substitution := fun text line => do
  let stream ← onWorld (·.openStream (.buffer ByteArray.empty))
  let status ← apart evaluate do
    connect outputDescriptor stream
    let state ← get
    let source := { Source.ofText text.toList line with
      documents := state.documents, aliases := state.aliases }
    match readCommands source with
    | .error misreading _ =>
      modify fun state => { state with line := misreading.line }
      fail misreading.fault.message
    | .ok statement source =>
      modify fun state => { state with documents := source.documents }
      evaluate false statement
  modify fun state => { state with substituted := status }
  return withoutLineEnds ((← get).world.bytesIn stream)

/-- Runs what is set for the signals that came. The status stays as it was. -/
def handleSignals (evaluate : Evaluator) : Run Unit := do
  let state ← get
  if !state.pending.isEmpty then
    set { state with pending := [] }
    state.pending.forM fun signal => do
      match (← get).traps.lookup signal with
      | some text =>
        let status := (← get).status
        let before := (← get).finalStatus
        modify fun state => { state with finalStatus := some status }
        runText evaluate false false text.toList
        modify fun state => { state with status, finalStatus := before }
      | none => pure ()

/-- Ends the shell if a command has failed and failures are to end it. -/
def checkFailure (tested : Bool) : Run Unit := do
  if (← hasOption 'e') && !tested && (← get).status != 0 then throw .exit

/-- How a round of a loop ends. -/
inductive Round where
  | done
  | left

/-- Runs a round of a loop; what leaves outer loops leaves this one too. -/
def runRound (run : Run Unit) : Run Round := do
  match ← attempt run with
  | .ok () => return .done
  | .error (.leave 0) | .error (.leave 1) => return .left
  | .error (.leave (levels + 2)) => throw (.leave (levels + 1))
  | .error (.again 0) | .error (.again 1) => return .done
  | .error (.again (levels + 2)) => throw (.again (levels + 1))
  | .error departure => throw departure

def withinLoop (run : Run Unit) : Run Unit := do
  modify fun state => { state with loops := state.loops + 1 }
  andThen run (modify fun state => { state with loops := state.loops - 1 })

/-- Repeats a body while a test gives the wanted answer; `status` is that of the last round. -/
def runLoop (evaluate : Evaluator) (tested wanted : Bool) (test body : Statement) :
    Nat → Nat → Run Unit
  | 0, _ => throw .exhausted
  | fuel + 1, status => do
    setStatusAfter fuel status (← runRound (evaluate true test))
where
  setStatusAfter (fuel status : Nat) : Round → Run Unit
    | .left => setStatus status
    | .done => do
      if ((← get).status == 0) != wanted then setStatus status
      else match ← runRound (evaluate tested body) with
        | .left => return ()
        | .done => runLoop evaluate tested wanted test body fuel (← get).status

def runEach (evaluate : Evaluator) (tested : Bool) (name : String) (body : Statement) :
    List String → Run Unit
  | [] => return ()
  | word :: rest => do
    assign name word
    match ← runRound (evaluate tested body) with
    | .left => return ()
    | .done => runEach evaluate tested name body rest

def matchesAny (evaluate : Evaluator) (text : String) : List Word → Run Bool
  | [] => return false
  | word :: rest => do
    if (← expandPattern (substitute evaluate) word).isMatch text.toList then return true
    else matchesAny evaluate text rest

def runBranch (evaluate : Evaluator) (tested : Bool) (text : String) :
    List (List Word × Statement) → Run Unit
  | [] => setStatus 0
  | (patterns, body) :: rest => do
    if ← matchesAny evaluate text patterns then
      match body with
      | .nothing => setStatus 0
      | _ => evaluate tested body
    else runBranch evaluate tested text rest

/-- Runs the parts of a pipeline; `input?` is the stream from the part before. -/
def runParts (evaluate : Evaluator) (tested : Bool) : Option Nat → List Statement → Run Unit
  | _, [] => return ()
  | input?, [part] => do
    setStatus (← apart evaluate do
      input?.forM (connect inputDescriptor)
      evaluate tested part)
  -- Every part runs to its end before the next one starts: the buffer holds all that it writes.
  | input?, part :: rest => do
    let stream ← onWorld (·.openStream (.buffer ByteArray.empty))
    let _ ← apart evaluate do
      input?.forM (connect inputDescriptor)
      connect outputDescriptor stream
      evaluate tested part
    runParts evaluate tested (some stream) rest

/-- The words of a command with those of assignments kept whole behind a command that marks
variables. -/
def expandWords (evaluate : Evaluator) : List String → List Word → Run (List String)
  | expanded, [] => return expanded
  | expanded, word :: rest => do
    let isMarking := match expanded.dropWhile (· == "command") with
      | name :: _ => ["export", "readonly", "local"].contains name
      | [] => false
    match isMarking, word.assignment? with
    | true, some (name, value) =>
      let value ← expandValue (substitute evaluate) value
      expandWords evaluate (expanded ++ [name ++ "=" ++ value]) rest
    | _, _ =>
      expandWords evaluate (expanded ++ (← expand (substitute evaluate) word)) rest

/-- Makes assignments, and notes the old values or marks the variables if asked for. -/
def assignAll (evaluate : Evaluator) (saves marks : Bool) :
    List (String × Word) → Run (List (String × String))
  | [] => return []
  | (name, word) :: rest => do
    let value ← expandValue (substitute evaluate) word
    if saves then saveVariable name
    assign name value
    if marks then
      match (← get).bindings.lookup name with
      | some entry => putVariable name { entry with isExported := true }
      | none => pure ()
    return (name, value) :: (← assignAll evaluate saves marks rest)

/-- Gives the variables of the function at work their old values back. -/
def leaveFrame : Run Unit := modify fun state =>
  match state.frames with
  | [] => state
  | frame :: rest =>
    let bindings := frame.foldl (fun bindings (name, old?) =>
      let others := bindings.filter (·.1 ≠ name)
      match old? with
      | some old => (name, old) :: others
      | none => others) state.bindings
    { state with bindings, frames := rest }

/-- Does something with values of variables that do not outlive it. -/
def withinFrame (run : Run Unit) : Run Unit := do
  modify fun state => { state with frames := [] :: state.frames }
  andThen run leaveFrame

/-- Shows a command before it runs, if that is asked for. -/
def trace (descriptors : Descriptors) (assigned : List (String × String)) (words : List String) :
    Run Unit := do
  if ← hasOption 'x' then
    let sign := (← valueOf "PS4").getD ""
    let shown := assigned.map (fun (name, value) => name ++ "=" ++ value) ++ words
    let current := (← get).descriptors
    modify fun state => { state with descriptors }
    let _ ← write errorDescriptor (gather (sign ++ " ".intercalate shown ++ "\n"))
    modify fun state => { state with descriptors := current }

def callFunction (evaluate : Evaluator) (tested : Bool) (body : Statement)
    (arguments : List String) : Run Unit := do
  let outer ← get
  set { outer with arguments, loops := 0, optionPlace := 1, optionOffset := 0 }
  let restore : Run Unit := modify fun state => { state with
    arguments := outer.arguments, loops := outer.loops, optionPlace := outer.optionPlace
    optionOffset := outer.optionOffset }
  match ← attempt (andThen (evaluate tested body) restore) with
  | .ok () | .error .back => return ()
  | .error departure => throw departure

def environment : Run (List (String × String)) := do
  return (← get).bindings.filterMap fun (name, entry) =>
    if entry.isExported then entry.value.map fun value => (name, value) else none

def statusOfError : OsError → Nat
  | .notFound | .notADirectory | .tooManyLinks | .nameTooLong => 127
  | _ => 126

/-- Starts a file; one without an interpreter is a script of this shell. -/
def startOrRead (start : Starter) : Starter := fun path invocation world =>
  match start path invocation world with
  | .error .notExecutableFormat =>
    start "/bin/sh" { invocation with words := "/bin/sh" :: path :: invocation.words.tail } world
  | result => result

/-- Starts the first of several files that can be started, as the shell does. -/
def startAny (start : Starter) (invocation : Invocation) (world : World) (error : OsError) :
    List String → Except OsError (Conclusion × World)
  | [] => .error error
  | path :: rest =>
    match startOrRead start path invocation world with
    | .ok result => .ok result
    | .error e =>
      startAny start invocation world
        (if e == .notFound || e == .notADirectory then error else e) rest

/-- Runs a program and gives its end, or the reason why there is none. -/
def startProgram (start : Starter) (searchPath : String) (words : List String) :
    Run (Except OsError Conclusion) := do
  let state ← get
  let name := words.headD ""
  let invocation := ⟨words, ← environment, state.descriptors, state.process⟩
  let places := if '/' ∈ name.toList then [name] else candidates searchPath name
  match startAny start invocation state.world .notFound places with
  | .error e => return .error e
  | .ok (conclusion, world) =>
    let home := state.world.files.workingDirectory
    set { state with world :=
      { world with files := { world.files with workingDirectory := home } } }
    takeSignals
    return .ok conclusion

def reportEnd : Conclusion → Run Unit
  | .killed signal => do
    match Signal.descriptions.lookup signal with
    | some text =>
      let _ ← write errorDescriptor (gather (text ++ "\n"))
    | none => pure ()
  | .exited _ => return ()

/-- Runs a program of the system, which is looked for first. -/
def runProgram (start : Starter) (searchPath : String) (words : List String) : Run Unit := do
  let name := words.headD ""
  let files := (← get).world.files
  let whereabouts :=
    if '/' ∈ name.toList then .found name
    else locateProgram files .notFound (candidates searchPath name)
  match whereabouts with
  | .missing error =>
    complain (name ++ ": " ++ openProblem missingToRun error)
    setStatus 127
  | .found _ =>
    match ← startProgram start searchPath words with
    | .ok conclusion =>
      reportEnd conclusion
      setStatus (statusOf conclusion)
    | .error error =>
      complain (name ++ ": " ++ openProblem missingToRun error)
      setStatus (statusOfError error)

def replaceShell (start : Starter) (words : List String) : Run Unit := do
  match ← startProgram start ((← valueOf pathName).getD "") words with
  | .ok (.killed signal) => throw (.killed signal)
  | .ok (.exited status) =>
    setTrap 0 none
    setStatus status
    throw .exit
  | .error error =>
    complain (words.headD "" ++ ": " ++ openProblem missingToRun error)
    setStatus (statusOfError error)
    throw .exit

def loopCount : List String → Run Nat
  | [] => return 1
  | word :: _ => do
    match count? word with
    | some (count + 1) => return count + 1
    | _ => fail ("Illegal number: " ++ word)

def leaveLoops (departure : Nat → Departure) (arguments : List String) : Run Unit := do
  let count ← loopCount arguments
  setStatus 0
  let loops := (← get).loops
  if loops ≠ 0 then throw (departure (min count loops))

/-- The status that a word spells, or the present one. -/
def chosenStatus (present : Nat) : List String → Run Nat
  | [] => return present
  | word :: _ => do
    match count? word with
    | some status => return status
    | none => fail ("Illegal number: " ++ word)

def runFile (evaluate : Evaluator) (name : String) : Run Unit := do
  let places ←
    if '/' ∈ name.toList then pure [name]
    else pure (candidates ((← valueOf pathName).getD "") name)
  let files := (← get).world.files
  let place? := if '/' ∈ name.toList then some name
    else places.find? fun place => files.isFile (pathOf place)
  match place? with
  | none => fail (name ++ ": not found")
  | some place =>
    match files.readBytes (pathOf place) with
    | .error e => fail ("cannot open " ++ place ++ ": " ++ openProblem missingToRead e)
    | .ok contents =>
      let outer ← get
      set { outer with command := some place }
      let restore : Run Unit := modify fun state =>
        { state with command := outer.command }
      let text := (spreadBytes contents).filter (· ≠ '\x00')
      match ← attempt (andThen (runText evaluate false true text) restore) with
      | .ok () | .error .back => return ()
      | .error departure => throw departure

/-- Carries out a command that runs others or leaves the order of commands. -/
def runControl? (evaluate : Evaluator) (start : Starter) (tested : Bool) (name : String) :
    Option (List String → Run Unit) :=
  match name with
  | "exit" => some fun arguments => do
    let state ← get
    setStatus (← chosenStatus (state.finalStatus.getD state.status) arguments)
    throw .exit
  | "return" => some fun arguments => do
    setStatus (← chosenStatus (← get).status arguments)
    throw .back
  | "break" => some (leaveLoops .leave)
  | "continue" => some (leaveLoops .again)
  | "eval" => some fun arguments =>
    runText evaluate tested false (" ".intercalate arguments).toList
  | "." => some fun arguments => match arguments with
    | [] => setStatus 0
    | name :: _ => runFile evaluate name
  | "exec" => some fun arguments => match arguments with
    | [] => setStatus 0
    | words => replaceShell start words
  | _ => none

/-- Runs a command of the shell under its name. A fault ends the shell only in a special one. -/
def runOwn (isSpecial : Bool) (name : String) (run : Run Unit) : Run Unit := do
  let outer := (← get).command
  modify fun state => { state with command := some name }
  let restore : Run Unit := modify fun state => { state with command := outer }
  match ← attempt (andThen run restore) with
  | .ok () => return ()
  | .error .fault => if isSpecial then throw .fault else return ()
  | .error departure => throw departure

/-- The words of `command` without it and its options, if it runs what follows; the flag tells
whether the usual search path is asked for. -/
def underCommand? : List String → Option (Bool × List String)
  | [] => none
  | word :: rest =>
    match word.toList with
    | ['-', '-'] => if rest = [] then none else some (false, rest)
    | '-' :: first :: more =>
      if (first :: more).all (· == 'p') then
        (underCommand? rest).map fun (_, words) => (true, words)
      else none
    | _ => some (false, word :: rest)

/-- What the words of a command lead to. -/
structure Call where
  words : List String
  isSpecial : Bool
  /-- Whether functions do not count, and whether the usual search path is taken. -/
  isPlain : Bool
  isUsualPath : Bool

/-- Goes past the names in front that only say how to look for a command. -/
def Call.ofWords : Nat → Bool → Bool → List String → Call
  | 0, isPlain, isUsualPath, words => ⟨words, false, isPlain, isUsualPath⟩
  | fuel + 1, isPlain, isUsualPath, words =>
    match words with
    | "command" :: rest =>
      match underCommand? rest with
      | some (usual, rest) => Call.ofWords fuel true (isUsualPath || usual) rest
      | none => ⟨words, false, isPlain, isUsualPath⟩
    | name :: _ => ⟨words, !isPlain && specialCommands.contains name, isPlain, isUsualPath⟩
    | [] => ⟨[], false, isPlain, isUsualPath⟩

/-- Runs a command whose words are filled in and whose redirections are made. -/
def runCall (evaluate : Evaluator) (start : Starter) (tested : Bool) (call : Call) : Run Unit := do
  let state ← get
  let ownPath := (← valueOf pathName).getD ""
  match call.words with
  | [] => setStatus state.substituted
  | name :: arguments =>
    let function? := if call.isPlain then none else state.functions.lookup name
    match function? with
    | some body => callFunction evaluate tested body arguments
    | none =>
      match (runControl? evaluate start tested name).or (builtin? name) with
      | some run => runOwn call.isSpecial name (run arguments)
      | none =>
        runProgram start (if call.isUsualPath then usualPath else ownPath) call.words

def runSimple (evaluate : Evaluator) (start : Starter) (tested : Bool) (command : SimpleCommand) :
    Run Unit := do
  modify fun state => { state with line := command.line, substituted := 0 }
  let words ← expandWords evaluate [] command.words
  let call := Call.ofWords (words.length + 1) false false words
  let descriptors := (← get).descriptors
  let redirections ← fillRedirections (substitute evaluate) command.redirections
  -- Without a program to put in the place of the shell, only the redirections are left of it.
  let isPermanent := call.words == ["exec"]
  let body : Run Unit := do
    if !(← redirectAll redirections) then
      if call.isSpecial then throw .fault
    else
      -- Assignments outlive a special command, and a command without words.
      let isLasting := call.words.isEmpty || call.isSpecial
      let carryOut : Run Unit := do
        let marks := !isLasting || call.words.head? == some "exec"
        let assigned ← assignAll evaluate (!isLasting) marks command.assignments
        if !(assigned.isEmpty && call.words.isEmpty) then trace descriptors assigned call.words
        runCall evaluate start tested call
      if isLasting then carryOut else withinFrame carryOut
  if isPermanent then body else keepingDescriptors body

/-- Runs a statement, with an evaluator for those in it. -/
def step (start : Evaluator → Starter) (evaluate : Evaluator) (tested : Bool) :
    Statement → Run Unit
  | .nothing => return ()
  | .simple command => do
    runSimple evaluate (start evaluate) tested command
    handleSignals evaluate
    checkFailure tested
  | .sequence first second => do
    evaluate tested first
    evaluate tested second
  | .both first second => do
    evaluate true first
    if (← get).status = 0 then evaluate tested second
  | .either first second => do
    evaluate true first
    if (← get).status ≠ 0 then evaluate tested second
  | .negation statement => do
    evaluate true statement
    setTruth ((← get).status ≠ 0)
  | .conditional test yes no => do
    evaluate true test
    if (← get).status = 0 then evaluate tested yes
    else match no with
      | .nothing => setStatus 0
      | _ => evaluate tested no
  | .loop wanted test body =>
    withinLoop (runLoop evaluate tested wanted test body maxRounds 0)
  | .each line name words body => do
    modify fun state => { state with line }
    match ← expandAll (substitute evaluate) words with
    | [] => setStatus 0
    | words => withinLoop (runEach evaluate tested name body words)
  | .choice line subject branches => do
    modify fun state => { state with line }
    runBranch evaluate tested (← expandWhole (substitute evaluate) subject) branches
  | .redirected line body redirections => do
    modify fun state => { state with line }
    let redirections ← fillRedirections (substitute evaluate) redirections
    keepingDescriptors do
      if ← redirectAll redirections then evaluate tested body
  | .apart line body redirections => do
    modify fun state => { state with line }
    let redirections ← fillRedirections (substitute evaluate) redirections
    setStatus (← apart evaluate do
      if ← redirectAll redirections then evaluate tested body)
    handleSignals evaluate
    checkFailure tested
  | .background line body redirections => do
    if line ≠ 0 then modify fun state => { state with line }
    let redirections ← fillRedirections (substitute evaluate) redirections
    let process ← onWorld (·.newProcess)
    let status ← apart evaluate do
      connectNew inputDescriptor (.nothing false)
      if ← redirectAll redirections then evaluate tested body
    modify fun state => { state with jobs := (process, status) :: state.jobs, status := 0 }
  | .pipeline parts => do
    runParts evaluate tested none parts
    handleSignals evaluate
    checkFailure tested
  | .definition name body => do
    modify fun state => { state with
      functions := (name, body) :: state.functions.filter (·.1 ≠ name), status := 0 }

def evaluateWith (start : Evaluator → Starter) : Nat → Evaluator
  | 0, _, _ => throw .exhausted
  | fuel + 1, tested, statement => do
    if !(← hasOption 'n') then step start (evaluateWith start fuel) tested statement

end Run

end UiScaffold.Shell
