import UiScaffold.FileSystem.Basic
import UiScaffold.FileSystem.OsError

/-!
From paths to locations.

A path is walked step by step; every step but the first must start at a directory. A link on the way
is replaced by the steps of its target, at most forty times. The last step may lead to a place where
nothing stands yet.
-/

set_option autoImplicit false
set_option relaxedAutoImplicit false

namespace UiScaffold

inductive PathStep where
  | stay
  | up
  | enter (name : String)
deriving DecidableEq, Repr

def PathStep.ofPiece (piece : String) : PathStep :=
  if piece = "" ∨ piece = "." then .stay
  else if piece = ".." then .up
  else .enter piece

namespace Path

/-- The steps of a path; the empty first piece of an absolute path makes none. -/
def steps (path : Path) : List PathStep :=
  (if path.isAbsolute then path.pieces.tail else path.pieces).map PathStep.ofPiece

/-- The longest path in bytes, and the longest name. -/
def maxLength : Nat := 4095
def maxNameLength : Nat := 255

/-- Why a path is refused before any step is made. -/
def refusal? (path : Path) : Option OsError :=
  if path.text.toList.contains '\x00' then some .nulInPath
  else if maxLength < path.text.utf8ByteSize then some .nameTooLong
  else if path.isEmpty then some .notFound
  else none

end Path

/-- Where a path leads. -/
inductive Target where
  | existing (location : Location)
  /-- Nothing stands there, but its directory exists. -/
  | vacant (directory : Location) (name : String)

/-- Where a walk along steps ends or is turned by a link. -/
inductive Passage where
  | arrived (target : Target)
  | turned (directory : Location) (target : Path) (rest : List PathStep)

namespace FileSystem

/-- Walks along steps up to the next link. A link in the last place is followed on demand. -/
def advance (fs : FileSystem) (followLast : Bool) (location : Location) :
    List PathStep → Except OsError Passage
  | [] => .ok (.arrived (.existing location))
  | step :: rest =>
    -- Even a step that stays needs a directory: a file with a slash behind it is refused.
    if !fs.hasDirectory location then .error .notADirectory
    else match step with
      | .stay => fs.advance followLast location rest
      | .up => fs.advance followLast location.dropLast rest
      | .enter name =>
        if Path.maxNameLength < name.utf8ByteSize then .error .nameTooLong
        else match fs.get? (location ++ [name]) with
          -- Only what the last step names may be missing.
          | none => if rest = [] then .ok (.arrived (.vacant location name)) else .error .notFound
          | some (.link target) =>
            if rest = [] ∧ followLast = false then
              .ok (.arrived (.existing (location ++ [name])))
            else .ok (.turned location target rest)
          | some _ => fs.advance followLast (location ++ [name]) rest

def base (location : Location) (path : Path) : Location :=
  if path.isAbsolute then [] else location

/-- Walks along steps and follows a limited number of links. -/
def follow (fs : FileSystem) (followLast : Bool) :
    Nat → Location → List PathStep → Except OsError Target
  | links, location, steps =>
    match fs.advance followLast location steps with
    | .error e => .error e
    | .ok (.arrived target) => .ok target
    | .ok (.turned directory target rest) =>
      match links with
      | 0 => .error .tooManyLinks
      | links + 1 => fs.follow followLast links (base directory target) (target.steps ++ rest)

/-- How many links may be followed on one path. -/
def maxLinks : Nat := 40

def resolve (fs : FileSystem) (followLast : Bool) (path : Path) : Except OsError Target :=
  match path.refusal? with
  | some e => .error e
  | none => fs.follow followLast maxLinks (base fs.workingDirectory path) path.steps

/-- The location of what a path names, through all links. -/
def locate (fs : FileSystem) (path : Path) : Except OsError Location :=
  match fs.resolve true path with
  | .ok (.existing location) => .ok location
  | .ok (.vacant ..) => .error .notFound
  | .error e => .error e

/-- What a path names, through all links. -/
def status (fs : FileSystem) (path : Path) : Except OsError Entry := do
  let location ← fs.locate path
  match fs.get? location with
  | some entry => .ok entry
  | none => .error .notFound

/-- What a path names; a link in the last place is not followed. -/
def linkStatus (fs : FileSystem) (path : Path) : Except OsError Entry :=
  match fs.resolve false path with
  | .ok (.existing location) =>
    match fs.get? location with
    | some entry => .ok entry
    | none => .error .notFound
  | .ok (.vacant ..) => .error .notFound
  | .error e => .error e

def isDirectory (fs : FileSystem) (path : Path) : Bool :=
  match fs.status path with
  | .ok .directory => true
  | _ => false

def isFile (fs : FileSystem) (path : Path) : Bool :=
  match fs.status path with
  | .ok (.file ..) => true
  | _ => false

def readBytes (fs : FileSystem) (path : Path) : Except OsError ByteArray := do
  match ← fs.status path with
  | .file contents _ => .ok contents
  | .directory => .error .isADirectory
  | .link _ => .error .tooManyLinks

def readText (fs : FileSystem) (path : Path) : Except OsError String := do
  match String.fromUTF8? (← fs.readBytes path) with
  | some text => .ok text
  | none => .error .notText

def locateDirectory (fs : FileSystem) (path : Path) : Except OsError Location := do
  let location ← fs.locate path
  if fs.hasDirectory location then .ok location else .error .notADirectory

/-- The names in a directory, sorted. -/
def list (fs : FileSystem) (path : Path) : Except OsError (List String) := do
  return fs.names (← fs.locateDirectory path)

end FileSystem

end UiScaffold
