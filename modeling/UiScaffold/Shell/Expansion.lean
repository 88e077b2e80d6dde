import UiScaffold.Shell.Arithmetic
import UiScaffold.Shell.Fields
import UiScaffold.Shell.State

/-!
Filling in words.

Parameters, the output of commands and arithmetic take the place of their pieces. Then the word is
cut into words, and those that are patterns for files give way to the files.
-/

set_option autoImplicit false
set_option relaxedAutoImplicit false

namespace UiScaffold.Shell

/-- The letters of the options in the order in which they are shown. -/
def optionLetters : List Char :=
  ['u', 'b', 'a', 'C', 'E', 'V', 'v', 'x', 's', 'n', 'm', 'i', 'I', 'f', 'e']

/-- Gives what commands write, from their text and its line. -/
abbrev Substitution := String → Nat → Run String

namespace Parameter

def name : Parameter → String
  | .variable name => name
  | .argument index => index.repr
  | .arguments => "@"
  | .joined => "*"
  | .count => "#"
  | .status => "?"
  | .process => "$"
  | .background => "!"
  | .options => "-"

def isList : Parameter → Bool
  | arguments | joined => true
  | _ => false

end Parameter

/-- What stands between arguments in one text. -/
def joiner (separators? : Option String) : String :=
  match separators? with
  | none => " "
  | some separators => String.ofList (separators.toList.take 1)

namespace Run

/-- The text of a parameter, if it has a value. -/
def text? (parameter : Parameter) : Run (Option String) := do
  let state ← get
  match parameter with
  | .variable name => valueOf name
  | .argument 0 => return some state.name
  | .argument (index + 1) => return state.arguments[index]?
  | .arguments | .joined =>
    return some ((joiner (← separators?)).intercalate state.arguments)
  | .count => return some state.arguments.length.repr
  | .status => return some state.status.repr
  | .process => return some state.process.repr
  | .background => return state.jobs.head?.map fun job => job.1.repr
  | .options => return some (String.ofList (optionLetters.filter state.options.contains))

def failMissing {α : Type} (parameter : Parameter) (text : String) : Run α :=
  fail (parameter.name ++ ": " ++ text)

/-- The text of a parameter; a missing value is refused if that option is on. -/
def textOf (parameter : Parameter) : Run String := do
  match ← text? parameter with
  | some text => return text
  | none =>
    if ← hasOption 'u' then failMissing parameter "parameter not set" else return ""

/-- The value of an expression as text. The variables that it assigns are set. -/
def calculate (expression : String) : Run String := do
  let bindings := (← get).bindings
  let value? (name : String) := (bindings.lookup name).bind (·.value)
  let isReadOnly (name : String) := ((bindings.lookup name).map (·.isReadOnly)).getD false
  let (result, assigned) := Arithmetic.evaluate value? isReadOnly expression
  assigned.reverse.forM fun (name, value) => assign name value
  match result with
  | .ok value => return toString value.toInt
  | .error fault => fail (fault.message expression)

def grainsOf (splits : Bool) (parameter : Parameter) (quoted : Bool) : Run (List Grain) := do
  let arguments := (← get).arguments
  if splits && quoted && parameter == .arguments then
    return (arguments.map fun a => .quotes :: Grain.ofText a true false).intersperse [.cut]
      |>.flatten
  else if splits && !quoted && parameter.isList then
    return (arguments.map fun a => Grain.ofText a false true).intersperse [.gap] |>.flatten
  else return Grain.ofText (← textOf parameter) quoted !quoted

end Run

mutual

/-- The grains of a piece. `inner` tells whether the piece belongs to an unquoted parameter, so that
its own text can be cut. -/
def fillPiece (substitute : Substitution) (splits inner : Bool) : Piece → Run (List Grain)
  | .text text quoted => return Grain.ofText text quoted (inner && !quoted)
  | .quotes => return [.quotes]
  | .parameter parameter quoted => Run.grainsOf splits parameter quoted
  | .length parameter quoted => do
    return Grain.ofText (← Run.textOf parameter).length.repr quoted !quoted
  | .fallback parameter kind orEmpty word quoted => do
    let text? ← Run.text? parameter
    let isMissing := text?.isNone || (orEmpty && text? == some "")
    match kind, isMissing with
    | .replace, true => return []
    | .use, true | .replace, false => fillPieces substitute splits (!quoted) word
    | .assign, true =>
      let value := Grain.text (← fillPieces substitute false false word)
      Run.assign parameter.name value
      Run.grainsOf splits parameter quoted
    | .complain, true =>
      if word.isEmpty then
        Run.failMissing parameter
          (if orEmpty then "parameter not set or null" else "parameter not set")
      else Run.failMissing parameter (Grain.text (← fillPieces substitute false false word))
    | _, false => Run.grainsOf splits parameter quoted
  | .trimmed parameter trimming pattern quoted => do
    let value ← Run.textOf parameter
    let pattern := Grain.pattern (← fillPieces substitute false false pattern)
    let rest := pattern.trim trimming.atEnd trimming.longest value.toList
    return Grain.ofText (String.ofList rest) quoted !quoted
  | .meaningless => Run.fail "Bad substitution"
  | .output commands line quoted => do
    return Grain.ofText (← substitute commands line) quoted !quoted
  | .arithmetic expression quoted => do
    let text := Grain.text (← fillPieces substitute false false expression)
    return Grain.ofText (← Run.calculate text) quoted !quoted

def fillPieces (substitute : Substitution) (splits inner : Bool) :
    List Piece → Run (List Grain)
  | [] => return []
  | piece :: rest => do
    let first ← fillPiece substitute splits inner piece
    let others ← fillPieces substitute splits inner rest
    return first ++ others

end

/-- Where a tilde can stand for the home directory. -/
inductive TildePlace where
  | start
  | afterColons

/-- Puts the home directory in place of tildes at the start of a text, and after colons if asked
for. `ends` tells whether the word ends with the text. -/
def expandTildes (home : String) (place : TildePlace) (ends : Bool) :
    Bool → List Char → List Piece
  | _, [] => []
  | atStart, c :: rest =>
    let stops (d : Char) : Bool := d == '/' || (d == ':' && match place with
      | .afterColons => true
      | .start => false)
    let others := expandTildes home place ends (match place with
      | .afterColons => c == ':'
      | .start => false) rest
    if atStart && c == '~' && (match rest with
      | d :: _ => stops d
      | [] => ends) then .text home true :: others
    else .text (String.singleton c) false :: others

def Word.expandTildes (home? : Option String) (place : TildePlace) : Word → Word
  | .text text false :: rest =>
    match home? with
    | some home =>
      if text.toList.contains '~' then
        Shell.expandTildes home place rest.isEmpty true text.toList ++ rest
      else .text text false :: rest
    | none => .text text false :: rest
  | word => word

namespace Run

def fill (substitute : Substitution) (splits : Bool) (place : TildePlace) (word : Word) :
    Run (List Grain) := do
  let word := word.expandTildes (← valueOf homeName) place
  fillPieces substitute splits false word

def expand (substitute : Substitution) (word : Word) : Run (List String) := do
  let grains ← fill substitute true .start word
  let separators := ((← separators?).getD usualSeparators).toList
  let files := (← get).world.files
  let isLiteral ← hasOption 'f'
  return (cutGrains separators grains).flatMap fun field =>
    if isLiteral || !field.isActive then [field.text]
    else match field.unescaped.files files with
      | [] => [field.text]
      | found => found

def expandAll (substitute : Substitution) (words : List Word) : Run (List String) := do
  return (← words.mapM (expand substitute)).flatten

def expandWhole (substitute : Substitution) (word : Word) : Run String :=
  return Grain.text (← fill substitute false .start word)

def expandValue (substitute : Substitution) (word : Word) : Run String :=
  return Grain.text (← fill substitute false .afterColons word)

def expandPattern (substitute : Substitution) (word : Word) : Run Pattern :=
  return Grain.pattern (← fill substitute false .start word)

end Run

end UiScaffold.Shell
