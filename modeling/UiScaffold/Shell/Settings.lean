import UiScaffold.Shell.Expansion

/-!
The commands that set options, arguments and variables.
-/

set_option autoImplicit false
set_option relaxedAutoImplicit false

namespace UiScaffold.Shell

/-- The options by their letters and names, in the order in which they are listed. Some names have
no letter. -/
def optionNames : List (Option Char × String) :=
  [(some 'e', "errexit"), (some 'f', "noglob"), (some 'I', "ignoreeof"), (some 'i', "interactive"),
    (some 'm', "monitor"), (some 'n', "noexec"), (some 's', "stdin"), (some 'x', "xtrace"),
    (some 'v', "verbose"), (some 'V', "vi"), (some 'E', "emacs"), (some 'C', "noclobber"),
    (some 'a', "allexport"), (some 'b', "notify"), (some 'u', "nounset"), (some 'p', "privileged"),
    (none, "nolog"), (none, "debug")]

/-- A text between single quotes; the single quotes in it stand between double ones. -/
def quotedText (text : String) : String :=
  let rec go : Nat → List Char → List Char
    | 0, _ => []
    | fuel + 1, chars =>
      let plain := chars.takeWhile (· ≠ '\x27')
      let first := '\x27' :: plain ++ ['\x27']
      match chars.dropWhile (· ≠ '\x27') with
      | [] => first
      | rest =>
        let quotes := rest.takeWhile (· == '\x27')
        let second := '\"' :: quotes ++ ['\"']
        match rest.dropWhile (· == '\x27') with
        | [] => first ++ second
        | more => first ++ second ++ go fuel more
  String.ofList (go (text.length + 1) text.toList)

/-- Whether a word holds options: a dash or plus and something behind it. -/
def optionWord? (word : String) : Option (Bool × List Char) :=
  match word.toList with
  | '-' :: letters => some (true, letters)
  | '+' :: letters => some (false, letters)
  | _ => none

/-- Cuts a text of the form `name=value`, or takes it as a name. -/
def nameAndValue (text : String) : String × Option String :=
  let name := text.toList.takeWhile (· ≠ '=')
  match text.toList.dropWhile (· ≠ '=') with
  | _ :: value => (String.ofList name, some (String.ofList value))
  | [] => (text, none)

namespace Run

def print (text : String) : Run Unit := do
  if !(← write outputDescriptor (gather text)) then
    complain (((← get).command.getD "") ++ ": I/O error")
    modify fun state => { state with status := 1 }

/-- Takes the options in front of the arguments of a command; a letter in `valued` takes a value.
The result has the letters with their values, and the other arguments. -/
def takeOptions (letters valued : List Char) :
    Nat → List String → Run (List (Char × String) × List String)
  | 0, arguments => return ([], arguments)
  | _ + 1, [] => return ([], [])
  | fuel + 1, word :: rest => do
    match word.toList with
    | ['-', '-'] => return ([], rest)
    | '-' :: first :: more => go fuel (first :: more) rest
    | _ => return ([], word :: rest)
where
  /-- Takes the letters of one word. -/
  go (fuel : Nat) : List Char → List String → Run (List (Char × String) × List String)
    | [], rest => takeOptions letters valued fuel rest
    | letter :: more, rest => do
      if valued.contains letter then
        match more, rest with
        | [], [] => fail ("No arg for -" ++ String.singleton letter ++ " option")
        | [], value :: rest =>
          let (options, others) ← takeOptions letters valued fuel rest
          return ((letter, value) :: options, others)
        | _, _ =>
          let (options, others) ← takeOptions letters valued fuel rest
          return ((letter, String.ofList more) :: options, others)
      else if letters.contains letter then
        let (options, others) ← go fuel more rest
        return ((letter, "") :: options, others)
      else fail ("Illegal option -" ++ String.singleton letter)

def takeLetters (letters : List Char) (arguments : List String) :
    Run (List Char × List String) := do
  let (options, rest) ← takeOptions letters [] (arguments.length + 1) arguments
  return (options.map (·.1), rest)

def setOption (letter : Char) (isOn : Bool) : Run Unit := modify fun state =>
  let others := state.options.filter (· ≠ letter)
  { state with options := if isOn then letter :: others else others }

def setLetter (letter : Char) (isOn : Bool) : Run Unit := do
  if optionNames.any (·.1 == some letter) then setOption letter isOn
  else fail ("Illegal option -" ++ String.singleton letter)

def printOptions (isOn : Bool) : Run Unit := do
  let options := (← get).options
  let isSet (letter? : Option Char) : Bool := (letter?.map options.contains).getD false
  if isOn then
    print ("Current option settings\n" ++ String.join (optionNames.map fun (letter?, name) =>
      name ++ String.ofList (List.replicate (16 - name.length) ' ') ++
        (if isSet letter? then "on" else "off") ++ "\n"))
  else
    print (String.join (optionNames.map fun (letter?, name) =>
      "set " ++ (if isSet letter? then "-o " else "+o ") ++ name ++ "\n"))

/-- Turns the option of a name on or off, or lists all of them. -/
def setNamed (isOn : Bool) : Option String → Run Unit
  | none => printOptions isOn
  | some name =>
    match optionNames.find? (·.2 == name) with
    | some (some letter, _) => setOption letter isOn
    | some (none, _) => return ()
    | none => fail ("Illegal option -o " ++ name)

/-- Turns the options of letters on or off; each `o` takes a name from the arguments. -/
def setLetters (isOn : Bool) : List Char → List String → Run (List String)
  | [], rest => return rest
  | letter :: more, rest => do
    if letter = 'o' then
      setNamed isOn rest.head?
      setLetters isOn more rest.tail
    else
      setLetter letter isOn
      setLetters isOn more rest

/-- Turns options on or off up to the first argument that holds none. The flag of the result tells
whether all arguments of the shell are to be dropped. -/
def setOptions : Nat → List String → Run (List String × Bool)
  | 0, arguments => return (arguments, false)
  | _ + 1, [] => return ([], false)
  | fuel + 1, word :: rest => do
    match optionWord? word with
    | none => return (word :: rest, false)
    | some (true, []) =>
      setOption 'x' false
      setOption 'v' false
      return (rest, false)
    | some (true, ['-']) => return (rest, rest.isEmpty)
    | some (isOn, letters) => do
      let rest ← setLetters isOn letters rest
      setOptions fuel rest

def sortedVariables : Run Bindings :=
  return (← get).bindings.mergeSort fun a b => Pattern.precedes a.1.toList b.1.toList

/-- Writes variables with their values, each after a word. -/
def printVariables (word : String) (wanted : Variable → Bool) : Run Unit := do
  let shown := (← sortedVariables).filter fun (_, entry) => wanted entry
  print (String.join (shown.map fun (name, entry) =>
    (if word = "" then "" else word ++ " ") ++ name ++
      (match entry.value with
      | some value => "=" ++ quotedText value
      | none => "") ++ "\n"))

def runSet (arguments : List String) : Run Unit := do
  setStatus 0
  if arguments = [] then printVariables "" (·.value.isSome)
  else
    let (rest, drops) ← setOptions (arguments.length + 1) arguments
    if drops || !rest.isEmpty then modify fun state =>
      { state with arguments := rest, optionPlace := 1, optionOffset := 0 }

/-- Marks a variable, which gets a value if one is given. -/
def markVariable (mark : Variable → Variable) (word : String) : Run Unit := do
  let (name, value?) := nameAndValue word
  if !isName name then fail (name ++ ": bad variable name")
  match value? with
  | some value => assign name value
  | none => pure ()
  let before := ((← get).bindings.lookup name).getD ⟨none, false, false⟩
  putVariable name (mark before)

/-- Carries out a command that marks variables, or lists those with the mark. -/
def runMarking (word : String) (mark : Variable → Variable) (isMarked : Variable → Bool)
    (arguments : List String) : Run Unit := do
  setStatus 0
  let (letters, rest) ← takeLetters ['p'] arguments
  if rest = [] ∨ letters ≠ [] then printVariables word isMarked
  else rest.forM (markVariable mark)

def runExport : List String → Run Unit :=
  runMarking "export" (fun entry => { entry with isExported := true }) (·.isExported)

def runReadOnly : List String → Run Unit :=
  runMarking "readonly" (fun entry => { entry with isReadOnly := true }) (·.isReadOnly)

/-- Notes the value of a variable that gets it back after the function at work. -/
def saveVariable (name : String) : Run Unit := modify fun state =>
  match state.frames with
  | frame :: rest =>
    if (frame.lookup name).isSome then state
    else { state with frames := ((name, state.bindings.lookup name) :: frame) :: rest }
  | [] => state

/-- Makes a variable local. It keeps its value until it gets another one. -/
def makeLocal (word : String) : Run Unit := do
  let (name, value?) := nameAndValue word
  if !isName name then fail (name ++ ": bad variable name")
  saveVariable name
  match value? with
  | some value => assign name value
  | none => pure ()

def runLocal (arguments : List String) : Run Unit := do
  setStatus 0
  if (← get).frames.isEmpty then fail "not in a function"
  arguments.forM makeLocal

/-- Takes a variable away, unless it may not be changed. -/
def unsetVariable (name : String) : Run Unit := do
  if !isName name then fail (name ++ ": bad variable name")
  match (← get).bindings.lookup name with
  | some ⟨_, _, true⟩ => fail (name ++ ": is read only")
  | _ => dropVariable name

def runUnset (arguments : List String) : Run Unit := do
  setStatus 0
  let (letters, rest) ← takeLetters ['v', 'f'] arguments
  if letters.getLast? = some 'f' then modify fun state =>
    { state with functions := state.functions.filter fun f => !rest.contains f.1 }
  else rest.forM unsetVariable

def runShift (arguments : List String) : Run Unit := do
  setStatus 0
  let count ← match arguments with
    | [] => pure 1
    | word :: _ => countOf word
  let given := (← get).arguments
  if given.length < count then fail "can't shift that many"
  modify fun state =>
    { state with arguments := given.drop count, optionPlace := 1, optionOffset := 0 }
where
  countOf (word : String) : Run Nat := do
    match count? word with
    | some count => return count
    | none => fail ("Illegal number: " ++ word)

end Run

end UiScaffold.Shell
