import UiScaffold.Text.Blank

/-!
Paths as they are written.

A path is the list of its pieces between slashes, so that nothing of its spelling is lost: an empty
first piece of several makes it absolute, an empty last piece is a slash at the end, and the empty
path has a single empty piece. Joining appends pieces.
-/

set_option autoImplicit false
set_option relaxedAutoImplicit false

namespace UiScaffold

/-- A path, by its pieces between slashes. -/
structure Path where
  pieces : List String
deriving DecidableEq, Repr

namespace Path

def ofText (text : String) : Path := ⟨Text.split '/' text⟩

def text (path : Path) : String := "/".intercalate path.pieces

def isEmpty (path : Path) : Bool := path.pieces == [] || path.pieces == [""]

def isAbsolute (path : Path) : Bool :=
  match path.pieces with
  | "" :: _ :: _ => true
  | _ => false

/-- Appends pieces with one slash in between; no slash is added to an empty path or after one that
ends in a slash. -/
def append (path : Path) (pieces : List String) : Path :=
  if path.pieces.getLast? = some "" then ⟨path.pieces.dropLast ++ pieces⟩
  else ⟨path.pieces ++ pieces⟩

def child (path : Path) (name : String) : Path := path.append [name]

/-- The second path as seen from the first: an absolute path replaces the first. -/
def join (path other : Path) : Path :=
  if other.isAbsolute then other else path.append other.pieces

/-- A piece that names no step: nothing between two slashes, or the directory itself. -/
def isIdle (piece : String) : Bool := piece == "" || piece == "."

def dropIdle (pieces : List String) : List String :=
  (pieces.reverse.dropWhile isIdle).reverse

/-- The pieces of a relative path without idle ones at the end; a leading dot counts as a step. -/
def settled : List String → List String
  | [] => []
  | "" :: _ => []
  | first :: rest => first :: dropIdle rest

def relative (pieces : List String) : Path := ⟨if pieces = [] then [""] else pieces⟩

def absolute (pieces : List String) : Path :=
  ⟨if pieces = [] then ["", ""] else "" :: pieces⟩

/-- The path without its last step; the root and the empty path have none. -/
def parent (path : Path) : Option Path :=
  if path.isAbsolute then
    match dropIdle path.pieces.tail with
    | [] => none
    | steps => some (absolute (dropIdle steps.dropLast))
  else
    match settled path.pieces with
    | [] => none
    | steps => some (relative (settled steps.dropLast))

/-- The path followed by its parents, at most `fuel` of them. -/
def ancestorsUpTo : Nat → Path → List Path
  | 0, _ => []
  | fuel + 1, path =>
    path :: match path.parent with
      | some up => ancestorsUpTo fuel up
      | none => []

/-- The path followed by its parents. Every parent has fewer pieces, but for the empty path. -/
def ancestors (path : Path) : List Path := ancestorsUpTo (path.pieces.length + 1) path

/-- A name that stands for a single entry of a directory. -/
def isNormal (piece : String) : Bool := piece != "" && piece != "." && piece != ".."

/-- The only step of the path, if it has just one and that is a plain name. -/
def singleName? (path : Path) : Option String :=
  match path.pieces with
  | first :: rest => if isNormal first && rest.all isIdle then some first else none
  | [] => none

/-- The part of a file name after its last dot, if something stands before the dot. -/
def extension? (name : String) : Option String :=
  let reversed := name.toList.reverse
  match reversed.dropWhile (· ≠ '.') with
  | _ :: _ :: _ => some (String.ofList (reversed.takeWhile (· ≠ '.')).reverse)
  | _ => none

end Path

end UiScaffold
