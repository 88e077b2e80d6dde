import UiScaffold.FileSystem.Action
import UiScaffold.Shell.Bytewise

/-!
Programs that look after files.

Each takes its words one after the other and goes on after a refusal; what it says about refusals
names the word, and how the program was called.
-/

set_option autoImplicit false
set_option relaxedAutoImplicit false

namespace UiScaffold.Shell

/-- What is done with files. -/
inductive Chore where
  | makeDirectory
  | remove
  | touch
  | list
deriving DecidableEq, Repr

/-- What a program has done so far. -/
structure ChoreReport where
  status : Nat
  output : String
  complaints : String
  files : FileSystem

def systemProblem : OsError → String
  | .notFound => "No such file or directory"
  | .notADirectory => "Not a directory"
  | .permissionDenied => "Permission denied"
  | .alreadyExists => "File exists"
  | .isADirectory => "Is a directory"
  | .nameTooLong => "File name too long"
  | .tooManyLinks => "Too many levels of symbolic links"
  | .notExecutableFormat => "Exec format error"
  | .nulInPath | .nulInCommand | .notText => "Invalid argument"

/-- The words of a program: the letters among its options, and the operands. -/
structure ChoreWords where
  letters : List Char
  operands : List String

namespace Chore

/-- The letters of a chore, and the words for them. -/
def options : Chore → List (Char × String)
  | makeDirectory => [('p', "parents"), ('v', "verbose")]
  | remove =>
    [('r', "recursive"), ('R', "recursive"), ('f', "force"), ('v', "verbose"), ('d', "dir")]
  | touch => [('c', "no-create"), ('a', "time=access"), ('m', "time=modify")]
  | list => [('a', "all"), ('A', "almost-all"), ('d', "directory"), ('1', "format=single-column")]

/-- The status after a refusal, and after a call that is wrong. -/
def refusedStatus : Chore → Nat
  | list => 2
  | _ => 1

/-- Sorts words into options and operands; an option that does not exist is the error. -/
def sortWords (chore : Chore) : List String → ChoreWords → Except String ChoreWords
  | [], words => .ok words
  | word :: rest, words =>
    match word.toList with
    | ['-', '-'] => .ok { words with operands := words.operands ++ rest }
    | '-' :: '-' :: name =>
      match chore.options.find? fun option => option.2 == String.ofList name with
      | some (letter, _) => sortWords chore rest { words with letters := letter :: words.letters }
      | none => .error ("unrecognized option \x27" ++ word ++ "\x27")
    | '-' :: letter :: more =>
      match (letter :: more).find? fun c => (chore.options.lookup c).isNone with
      | some c => .error ("invalid option -- \x27" ++ String.singleton c ++ "\x27")
      | none =>
        sortWords chore rest { words with letters := letter :: more ++ words.letters }
    | _ => sortWords chore rest { words with operands := words.operands ++ [word] }

def refuse (chore : Chore) (text : String) (report : ChoreReport) : ChoreReport :=
  { report with status := chore.refusedStatus, complaints := report.complaints ++ text ++ "\n" }

/-- Does something with files; a refusal is put into words. -/
def attempt (chore : Chore) (action : FileAction Unit) (complaint : OsError → String)
    (report : ChoreReport) : ChoreReport :=
  match action report.files with
  | .ok () files => { report with files }
  | .error e files => refuse chore (complaint e) { report with files }

def quoted (word : String) : String :=
  if word.contains '\x27' then "\"" ++ word ++ "\"" else "\x27" ++ word ++ "\x27"

/-- Makes a directory; with the letter `p`, those on the way too. -/
def makeOne (name : String) (letters : List Char) (word : String) :
    ChoreReport → ChoreReport :=
  let path := pathOf word
  let complaint (e : OsError) : String :=
    name ++ ": cannot create directory " ++ quoted word ++ ": " ++ systemProblem e
  makeDirectory.attempt
    (if letters.contains 'p' then FileAction.makeDirectories path
      else FileAction.makeDirectory path) complaint

def endsInDots (path : Path) : Bool :=
  match (path.pieces.reverse.dropWhile (· == "")).head? with
  | some piece => piece == "." || piece == ".."
  | none => false

/-- Removes a file, or with the letter `r` a directory. -/
def removeOne (name : String) (letters : List Char) (word : String) (report : ChoreReport) :
    ChoreReport :=
  let path := pathOf word
  let complaint (e : OsError) : String :=
    name ++ ": cannot remove " ++ quoted word ++ ": " ++ systemProblem e
  let recursive := letters.contains 'r' || letters.contains 'R'
  match report.files.linkStatus path with
  | .error e =>
    if letters.contains 'f' && (e == .notFound || e == .notADirectory) then report
    else remove.refuse (complaint e) report
  | .ok .directory =>
    if !recursive then remove.refuse (complaint .isADirectory) report
    else if endsInDots path then
      remove.refuse (name ++ ": refusing to remove \x27.\x27 or \x27..\x27 directory: skipping " ++
        quoted word) report
    else remove.attempt (FileAction.remove (FileAction.withoutSlash path)) complaint report
  | .ok _ => remove.attempt (FileAction.remove path) complaint report

/-- Makes an empty file where none is, unless the letter `c` forbids it. -/
def touchOne (name : String) (letters : List Char) (word : String) (report : ChoreReport) :
    ChoreReport :=
  let path := pathOf word
  let complaint (e : OsError) : String :=
    name ++ ": cannot touch " ++ quoted word ++ ": " ++ systemProblem e
  match report.files.status path with
  | .ok _ => report
  | .error .notFound =>
    if letters.contains 'c' then report
    else touch.attempt (FileAction.store path ByteArray.empty false) complaint report
  | .error e => touch.refuse (complaint e) report

/-- The names in a directory that are shown, on lines. -/
def listing (letters : List Char) (names : List String) : String :=
  let own := if letters.contains 'a' then [".", ".."] else []
  let hidden := letters.contains 'a' || letters.contains 'A'
  let shown := names.filter fun name => hidden || name.toList.head? ≠ some '.'
  String.join ((own ++ shown).map fun name => spread name ++ "\n")

/-- Lists what several words name: files first, then what is in directories. -/
def listAll (name : String) (letters : List Char) (words : List String) (report : ChoreReport) :
    ChoreReport :=
  let words := if words = [] then ["."] else words
  let words := words.mergeSort fun a b => decide (a ≤ b)
  let missing (word : String) : Option String :=
    match report.files.linkStatus (pathOf word) with
    | .ok _ => none
    | .error e => some (name ++ ": cannot access " ++ quoted word ++ ": " ++ systemProblem e)
  let report := (words.filterMap missing).foldl (fun report text => list.refuse text report) report
  let present := words.filter fun word => (missing word).isNone
  let opened (word : String) : Option (List String) :=
    if letters.contains 'd' then none else (report.files.list (pathOf word)).toOption
  let files := present.filter fun word => (opened word).isNone
  let directories := present.filterMap fun word => (opened word).map fun names => (word, names)
  let block (item : String × List String) : String :=
    (if 1 < words.length then item.1 ++ ":\n" else "") ++ listing letters item.2
  let plain := String.join (files.map (· ++ "\n"))
  { report with output :=
      "\n".intercalate ((if plain = "" then [] else [plain]) ++ directories.map block) }

def missingOperand (chore : Chore) : String :=
  if chore = touch then "missing file operand" else "missing operand"

/-- Does a chore; `name` is what the program was called by. -/
def run (chore : Chore) (name : String) (words : List String) (files : FileSystem) :
    ChoreReport :=
  let start : ChoreReport := ⟨0, "", "", files⟩
  let misused (text : String) : ChoreReport :=
    refuse chore (name ++ ": " ++ text ++ "\nTry \x27" ++ name ++
      " --help\x27 for more information.") start
  match chore.sortWords words ⟨[], []⟩ with
  | .error text => misused text
  | .ok ⟨letters, operands⟩ =>
    if operands = [] && chore != list && !(chore == remove && letters.contains 'f') then
      misused chore.missingOperand
    else match chore with
      | makeDirectory => operands.foldl (fun report word => makeOne name letters word report) start
      | remove => operands.foldl (fun report word => removeOne name letters word report) start
      | touch => operands.foldl (fun report word => touchOne name letters word report) start
      | list => listAll name letters operands start

end Chore

end UiScaffold.Shell
