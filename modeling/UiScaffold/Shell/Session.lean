import UiScaffold.Shell.Evaluator

/-!
A shell from its start to its end.

A shell runs the script that it is started with, the text after the option `-c`, or else its input.
-/

set_option autoImplicit false
set_option relaxedAutoImplicit false

namespace UiScaffold.Shell

/-- The variables that a shell starts with: those of its environment, and a few of its own. -/
def startVariables (invocation : Invocation) (home : Location) : Bindings :=
  let given := invocation.environment.filter fun (name, _) => isName name
  let own := [(separatorsName, usualSeparators), (optionIndexName, "1"),
    ("PPID", invocation.parent.repr), ("PS1", "# "), ("PS2", "> "), ("PS4", "+ ")]
  let kept := given.filter fun (name, _) =>
    name ≠ separatorsName && name ≠ optionIndexName && name ≠ "PPID" && name ≠ directoryName
  let usual := if (given.lookup pathName).isSome then [] else [(pathName, usualPath)]
  kept.map (fun (name, value) => (name, ⟨some value, true, false⟩)) ++
    (own.filter fun (name, _) => (kept.lookup name).isNone).map (fun (name, value) =>
      (name, ⟨some value, false, false⟩)) ++
    usual.map (fun (name, value) => (name, ⟨some value, false, false⟩)) ++
    [(directoryName, ⟨some (locationText home), true, false⟩)]

def startState (invocation : Invocation) (world : World) : State :=
  let (process, world) := world.newProcess
  { world
    descriptors := invocation.descriptors
    bindings := startVariables invocation world.files.workingDirectory
    functions := []
    name := invocation.words.headD "sh"
    arguments := []
    status := 0
    substituted := 0
    options := []
    line := 0
    readTo := 0
    command := none
    loops := 0
    frames := []
    traps := []
    pending := []
    documents := []
    aliases := []
    jobs := []
    process
    isCopy := false
    finalStatus := none
    mask := 18
    optionPlace := 1
    optionOffset := 0 }

namespace Run

/-- Takes the letters of a word that a shell is started with; the flag tells whether a text
follows. -/
def takeStartLetters (isOn : Bool) :
    Bool → List Char → List String → Run (Bool × List String)
  | hasText, [], rest => return (hasText, rest)
  | hasText, letter :: more, rest => do
    if letter = 'c' then takeStartLetters isOn true more rest
    else if letter = 'l' then takeStartLetters isOn hasText more rest
    else if letter = 'o' then
      setNamed isOn rest.head?
      takeStartLetters isOn hasText more rest.tail
    else
      setLetter letter isOn
      takeStartLetters isOn hasText more rest

def takeStartOptions : Nat → Bool → List String → Run (Bool × List String)
  | 0, hasText, words => return (hasText, words)
  | _ + 1, hasText, [] => return (hasText, [])
  | fuel + 1, hasText, word :: rest => do
    match optionWord? word with
    | none => return (hasText, word :: rest)
    | some (true, []) | some (true, ['-']) => return (hasText, rest)
    | some (isOn, letters) =>
      let (hasText, rest) ← takeStartLetters isOn hasText letters rest
      takeStartOptions fuel hasText rest

/-- Runs the text of a script. What is left of a script after a return is not run. -/
def runScript (evaluate : Evaluator) (isFile : Bool) (contents : List Char) : Run Unit := do
  match ← attempt (runText evaluate false isFile (contents.filter (· ≠ '\x00'))) with
  | .ok () | .error .back => return ()
  | .error departure => throw departure

def runShell (evaluate : Evaluator) (words : List String) : Run Unit := do
  let (hasText, rest) ← takeStartOptions (words.length + 1) false words
  let readsInput ← hasOption 's'
  match hasText, if readsInput && !hasText then [] else rest with
  | true, [] => fail "-c requires an argument"
  | true, text :: more =>
    match more with
    | [] => pure ()
    | name :: arguments => modify fun state => { state with name, arguments }
    runScript evaluate false text.toList
  | false, name :: arguments =>
    match (← get).world.files.readBytes (pathOf name) with
    | .error e => fail ("cannot open " ++ name ++ ": " ++ openProblem missingToRead e)
    | .ok contents =>
      modify fun state => { state with name, arguments }
      runScript evaluate true (spreadBytes contents)
  | false, [] =>
    match (← get).descriptors.lookup inputDescriptor with
    | none => return ()
    | some stream =>
      setOption 's' true
      modify fun state => { state with arguments := rest }
      runScript evaluate true (spreadBytes (← onWorld (·.readAll stream)))

end Run

def shellConclusion (evaluate : Evaluator) (invocation : Invocation) (world : World) :
    Conclusion × World :=
  let (conclusion, state) :=
    Run.conclude evaluate (Run.runShell evaluate invocation.words.tail)
      (startState invocation world)
  let conclusion := match conclusion with
    | .exited status => .exited (status % 256)
    | .killed signal => .killed signal
  (conclusion, state.world)

def maxPrograms : Nat := 32

/-- Starts the program behind a file, with an evaluator for shells. -/
def starterFor (evaluate : Evaluator) : Starter :=
  startFile (shellConclusion evaluate) maxPrograms

def starter : Starter := starterFor (Run.evaluateWith starterFor Run.maxDepth)

end UiScaffold.Shell
