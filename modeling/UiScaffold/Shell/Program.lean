import UiScaffold.Shell.Chore
import UiScaffold.Shell.Printing
import UiScaffold.Shell.Redirecting

/-!
Programs: the files that can be run, and the programs of the system that they lead to.

A file that can be run names its interpreter in its first line, which may be such a file again. In
the end there is a program of the system, of which a few are known.
-/

set_option autoImplicit false
set_option relaxedAutoImplicit false

namespace UiScaffold.Shell

/-- What a program is started with: its name and arguments, variables, descriptors, and the process
that starts it. -/
structure Invocation where
  words : List String
  environment : List (String × String)
  descriptors : Descriptors
  parent : Nat

inductive Conclusion where
  | exited (status : Nat)
  | killed (signal : Nat)
deriving DecidableEq, Repr

/-- Starts a file with a path; without a program there is the reason. -/
abbrev Starter := String → Invocation → World → Except OsError (Conclusion × World)

inductive Utility where
  | shell
  | answer (holds : Bool)
  | echo
  | concatenate
  | environment
  | pause
  | chore (chore : Chore)
deriving DecidableEq, Repr

def utilities : List (String × Utility) :=
  [("sh", .shell), ("dash", .shell), ("bash", .shell), ("true", .answer true),
    ("false", .answer false), ("echo", .echo), ("cat", .concatenate), ("env", .environment),
    ("sleep", .pause),
    ("mkdir", .chore .makeDirectory), ("rm", .chore .remove), ("touch", .chore .touch),
    ("ls", .chore .list)]

def systemDirectories : List String := ["/bin", "/usr/bin"]

def usualPath : String := "/usr/local/sbin:/usr/local/bin:/usr/sbin:/usr/bin:/sbin:/bin"

def utility? (path : String) : Option Utility :=
  (systemDirectories.flatMap fun directory => utilities.map fun (name, utility) =>
    (directory ++ "/" ++ name, utility)).lookup path

def isSpace (c : Char) : Bool := c == ' ' || c == '\t'

/-- The interpreter in the first line of a script, and the argument that the line gives it. -/
def interpreter? : List Char → Option (String × Option String)
  | '#' :: '!' :: rest =>
    let line := (rest.takeWhile (· ≠ '\n')).dropWhile isSpace
    let line := (line.reverse.dropWhile isSpace).reverse
    let name := line.takeWhile fun c => !isSpace c
    let argument := (line.dropWhile fun c => !isSpace c).dropWhile isSpace
    if name = [] then none
    else some (String.ofList name, if argument = [] then none else some (String.ofList argument))
  | _ => none

def maxInterpreters : Nat := 5

/-- The program behind a path, and the words that it is started with. -/
def program? (files : FileSystem) :
    Nat → String → List String → Except OsError (Utility × List String)
  | 0, _, _ => .error .tooManyLinks
  | fuel + 1, path, words =>
    match utility? path with
    | some utility => .ok (utility, words)
    | none =>
      match files.status (pathOf path) with
      | .error e => .error e
      | .ok (.file contents true) =>
        match interpreter? (spreadBytes contents) with
        | some (name, argument?) =>
          program? files fuel name (name :: argument?.toList ++ path :: words.tail)
        | none => .error .notExecutableFormat
      | .ok _ => .error .permissionDenied

def candidates (searchPath program : String) : List String :=
  (Text.split ':' searchPath).map fun directory =>
    if directory = "" then program else directory ++ "/" ++ program

def isPassing (error : OsError) : Bool :=
  error == .notFound || error == .notADirectory || error == .permissionDenied

/-- Starts the first of several files that can be run. A file that may not be run counts more than
files that are missing; `error` is what counts so far. -/
def startFirst (start : String → Except OsError (Conclusion × World)) (error : OsError) :
    List String → Except OsError (Conclusion × World)
  | [] => .error error
  | path :: rest =>
    match start path with
    | .ok result => .ok result
    | .error e =>
      if isPassing e then startFirst start (if error = .permissionDenied then error else e) rest
      else .error e

/-- Finds a program as the system does, and starts it. -/
def startFound (start : Starter) (searchPath : String) (invocation : Invocation) (world : World) :
    Except OsError (Conclusion × World) :=
  match invocation.words.headD "" with
  | "" => .error .notFound
  | name =>
    if '/' ∈ name.toList then start name invocation world
    else if Path.maxNameLength < name.length then .error .nameTooLong
    else startFirst (start · invocation world) .notFound (candidates searchPath name)

def printTo (invocation : Invocation) (descriptor : Nat) (text : String) (world : World) : World :=
  match (invocation.descriptors.lookup descriptor).bind (world.write? · (gather text)) with
  | some world => world
  | none => world

/-- The words of `echo` without its options: whether a line end is left out, and whether escapes
count. -/
def echoOptions (noEnd escapes : Bool) : List String → Bool × Bool × List String
  | [] => (noEnd, escapes, [])
  | word :: rest =>
    match word.toList with
    | '-' :: first :: more =>
      let letters := first :: more
      if letters.all fun c => c == 'n' || c == 'e' || c == 'E' then
        let last? := (letters.filter (· ≠ 'n')).getLast?
        echoOptions (noEnd || letters.contains 'n')
          (match last? with
          | some letter => letter == 'e'
          | none => escapes) rest
      else (noEnd, escapes, word :: rest)
    | _ => (noEnd, escapes, word :: rest)

/-- What the program `echo` writes; other than the command, it takes escapes only on demand. -/
def echoed (words : List String) : String :=
  let (noEnd, escapes, words) := echoOptions false false words
  let text := " ".intercalate words
  let text := if escapes then
      String.ofList ((unescaped text).1.map fun byte => Char.ofNat byte.toNat)
    else text
  if noEnd then text else text ++ "\n"

/-- Writes out the files that words name, the input for a dash; the status tells whether all could
be read. -/
def concatenate (invocation : Invocation) : Nat → List String → World → Nat × World
  | status, [], world => (status, world)
  | status, word :: rest, world =>
    let input? :=
      if word = "-" ∨ word = "/dev/stdin" then invocation.descriptors.lookup inputDescriptor
      else none
    match input? with
    | some stream =>
      let (bytes, world) := world.readAll stream
      concatenate invocation status rest
        (printTo invocation outputDescriptor (String.ofList (spreadBytes bytes)) world)
    | none =>
      if word = "/dev/null" then concatenate invocation status rest world
      else match world.files.readBytes (pathOf word) with
        | .ok bytes =>
          concatenate invocation status rest
            (printTo invocation outputDescriptor (String.ofList (spreadBytes bytes)) world)
        | .error e =>
          concatenate invocation 1 rest (printTo invocation errorDescriptor
            (invocation.words.headD "" ++ ": " ++ word ++ ": " ++ systemProblem e ++ "\n") world)

/-- Runs a program in another environment, or lists the environment. -/
def runEnvironment (start : Starter) (invocation : Invocation) :
    List String → World → Conclusion × World
  | [], world =>
    (.exited 0, printTo invocation outputDescriptor
      (String.join (invocation.environment.map fun (name, value) => name ++ "=" ++ value ++ "\n"))
      world)
  | word :: rest, world =>
    match assignment? word with
    | some (name, value) =>
      let others := invocation.environment.filter (·.1 ≠ name)
      runEnvironment start { invocation with environment := others ++ [(name, value)] } rest world
    | none =>
      if word = "-i" then runEnvironment start { invocation with environment := [] } rest world
      else
        let searchPath := (invocation.environment.lookup pathName).getD "/bin:/usr/bin"
        match startFound start searchPath { invocation with words := word :: rest } world with
        | .ok result => result
        | .error e =>
          let missing := e == .notFound || e == .notADirectory
          (.exited (if missing then 127 else 126), printTo invocation errorDescriptor
            (invocation.words.headD "" ++ ": '" ++ word ++ "': " ++ systemProblem e ++ "\n") world)

/-- Whether a word is a length of time: a decimal number, and perhaps the letter of a unit. -/
def isInterval (word : String) : Bool :=
  let chars := word.toList
  let number := match chars.getLast? with
    | some last => if "smhd".toList.contains last then chars.dropLast else chars
    | none => chars
  match number.filter (· ≠ '.') with
  | [] => false
  | digits => digits.all Char.isDigit && number.count '.' ≤ 1

def pauseProblem? (words : List String) : Option String :=
  match words, words.filter fun word => !isInterval word with
  | [], _ => some "missing operand"
  | _, [] => none
  | _, word :: _ => some ("invalid time interval " ++ Chore.quoted word)

def Utility.run (runShell : Invocation → World → Conclusion × World) (start : Starter)
    (invocation : Invocation) (world : World) : Utility → Conclusion × World
  | shell => runShell invocation world
  | answer holds => (.exited (if holds then 0 else 1), world)
  | echo => (.exited 0, printTo invocation outputDescriptor (echoed invocation.words.tail) world)
  | concatenate =>
    let names := invocation.words.tail
    let (status, world) :=
      Shell.concatenate invocation 0 (if names = [] then ["-"] else names) world
    (.exited status, world)
  | environment => runEnvironment start invocation invocation.words.tail world
  | pause =>
    let name := invocation.words.headD ""
    match pauseProblem? invocation.words.tail with
    | none => (.exited 0, world)
    | some problem => (.exited 1, printTo invocation errorDescriptor
        (name ++ ": " ++ problem ++ "\nTry \x27" ++ name ++ " --help\x27 for more information.\n")
        world)
  | .chore task =>
    let report := task.run (invocation.words.headD "") invocation.words.tail world.files
    let world := printTo invocation errorDescriptor report.complaints
      { world with files := report.files }
    (.exited report.status, printTo invocation outputDescriptor report.output world)

/-- Starts the program behind a file. Programs may start others in turn. -/
def startFile (runShell : Invocation → World → Conclusion × World) : Nat → Starter
  | 0, _, _, _ => .error .notFound
  | fuel + 1, path, invocation, world => do
    let (utility, words) ← program? world.files maxInterpreters path invocation.words
    return utility.run runShell (startFile runShell fuel) { invocation with words } world

end UiScaffold.Shell
