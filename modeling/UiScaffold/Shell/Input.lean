import UiScaffold.Shell.Settings
import UiScaffold.Shell.Signal

/-!
The commands that take apart what they get: `read` a line of input, `getopts` the options among
arguments.
-/

set_option autoImplicit false
set_option relaxedAutoImplicit false

namespace UiScaffold.Shell

def dropBlanks (separators : List Char) (grains : List Grain) : List Grain :=
  grains.dropWhile fun grain => grain.separation separators == .blank

/-- The last of several fields of a line: all that is left, without the blanks at its end. If that
is a single field, the separator at its end goes too. -/
def lastField (separators : List Char) (grains : List Grain) : String :=
  let rest := (dropBlanks separators (dropBlanks separators grains).reverse).reverse
  match cutGrains separators rest with
  | [] => ""
  | [field] => field.text
  | _ => Grain.text rest

/-- The fields of a line, of which there are as many as asked for; the last one takes the rest. -/
def lineFields (separators : List Char) : Nat → List Grain → List String
  | 0, _ => []
  | 1, grains => [lastField separators grains]
  | count + 2, grains =>
    let line := dropBlanks separators grains
    let isPlain (grain : Grain) : Bool := grain.separation separators == .none
    let field := Grain.text (line.takeWhile isPlain)
    let rest := dropBlanks separators (line.dropWhile isPlain)
    let rest := match rest with
      | grain :: more => if grain.separation separators = .ending then more else rest
      | [] => []
    field :: lineFields separators (count + 1) rest

namespace Run

def readChar : Run (Option Char) := do
  match (← get).descriptors.lookup inputDescriptor with
  | none => return none
  | some stream => return (← onWorld (·.readByte stream)).map fun byte => Char.ofNat byte.toNat

/-- Reads the grains of a line, the last one first. The flag tells whether the line was ended; a
backslash quotes the next character, and joins lines, unless it is `plain`. -/
def readGrains (plain : Bool) : Nat → List Grain → Run (List Grain × Bool)
  | 0, grains => return (grains, false)
  | fuel + 1, grains => do
    match ← readChar with
    | none => return (grains, false)
    | some '\n' => return (grains, true)
    | some '\x00' => readGrains plain fuel grains
    | some '\\' =>
      if plain then readGrains plain fuel (.char '\\' false true :: grains)
      else
        match ← readChar with
        | none => return (grains, false)
        | some '\n' => readGrains plain fuel grains
        | some c => readGrains plain fuel (.char c true false :: grains)
    | some c => readGrains plain fuel (.char c false true :: grains)

/-- How many bytes the input can hold at most. -/
def inputBound : Run Nat := do
  let state ← get
  match (state.descriptors.lookup inputDescriptor).bind (state.world.streams[·]?) with
  | some (.buffer bytes) => return bytes.size
  | some (.file location _ _ _) => return (state.world.contentsAt location).size
  | _ => return 0

def runRead (arguments : List String) : Run Unit := do
  let (options, names) ← takeOptions ['r'] ['p'] (arguments.length + 1) arguments
  if names = [] then fail "arg count"
  let plain := options.any (·.1 == 'r')
  let (grains, isEnded) ← readGrains plain ((← inputBound) + 1) []
  let separators := ((← separators?).getD usualSeparators).toList
  let fields := lineFields separators names.length grains.reverse
  (names.zip fields).forM fun (name, field) => assign name field
  setStatus (if isEnded then 0 else 1)

def finishOption (name letter : String) (place offset status : Nat) : Run Unit := do
  assign optionIndexName place.repr
  modify fun state => { state with optionPlace := place, optionOffset := offset }
  assign name letter
  setStatus status

/-- Complains about an option, or passes it on if the letters start with a colon. -/
def refuseOption (isSilent : Bool) (letter : Char) (text : String) : Run Unit := do
  if isSilent then assign optionArgumentName (String.singleton letter)
  else
    let _ ← write errorDescriptor (gather (text ++ "\n"))
    dropVariable optionArgumentName

/-- Whether a letter is among the letters of options, and whether a colon follows it. -/
def optionKind? (letter : Char) : List Char → Option Bool
  | [] => none
  | c :: ':' :: rest => if c = letter then some true else optionKind? letter rest
  | c :: rest => if c = letter then some false else optionKind? letter rest

def nextOption (letters name : String) (arguments : List String) : Run Unit := do
  let state ← get
  let place := max 1 state.optionPlace
  let current := ((arguments[place - 2]?).getD "").toList
  let isInside := decide (1 < place) && state.optionOffset != 0 &&
    decide (state.optionOffset < current.length)
  let word? := arguments[place - 1]?
  let start? : Option (List Char × Nat) :=
    if isInside then some (current.drop state.optionOffset, place)
    else match word?.map String.toList with
      | some ('-' :: first :: more) => some (first :: more, place + 1)
      | _ => none
  match start? with
  | none => finishOption name "?" place 0 1
  | some (['-'], next) =>
    if isInside then takeLetter ['-'] next else finishOption name "?" next 0 1
  | some (chars, next) => takeLetter chars next
where
  /-- Takes the first of the letters in a word; `next` is the place behind the word. -/
  takeLetter (chars : List Char) (next : Nat) : Run Unit := do
    let letter := chars.headD '?'
    let rest := chars.tail
    let length := ((arguments[next - 2]?).getD "").length
    let offset := if rest = [] then 0 else length - rest.length
    let isSilent := letters.toList.head? == some ':'
    match optionKind? letter letters.toList with
    | none =>
      refuseOption isSilent letter ("Illegal option -" ++ String.singleton letter)
      finishOption name "?" next offset 0
    | some false =>
      assign optionArgumentName ""
      finishOption name (String.singleton letter) next offset 0
    | some true =>
      match rest, arguments[next - 1]? with
      | [], none =>
        refuseOption isSilent letter ("No arg for -" ++ String.singleton letter ++ " option")
        finishOption name (if isSilent then ":" else "?") next 0 0
      | [], some value =>
        assign optionArgumentName value
        finishOption name (String.singleton letter) (next + 1) 0 0
      | rest, _ =>
        assign optionArgumentName (String.ofList rest)
        finishOption name (String.singleton letter) next 0 0

def runGetOptions : List String → Run Unit
  | letters :: name :: given => do
    let own := (← get).arguments
    nextOption letters name (if given = [] then own else given)
  | _ => fail "Usage: getopts optstring var [arg...]"

def setTrap (signal : Nat) (action : Option String) : Run Unit := modify fun state =>
  let others := state.traps.filter (·.1 ≠ signal)
  { state with traps := match action with
    | some text => (signal, text) :: others
    | none => others }

def setTraps (action : Option String) : List String → Run Unit
  | [] => return ()
  | word :: rest => do
    match Signal.ofText? word with
    | some signal =>
      setTrap signal action
      setTraps action rest
    | none =>
      let _ ← write errorDescriptor (gather ("trap: " ++ word ++ ": bad trap\n"))
      setStatus 1

def runTrap (arguments : List String) : Run Unit := do
  setStatus 0
  let (_, rest) ← takeLetters [] arguments
  match rest with
  | [] =>
    let traps := (← get).traps.mergeSort fun a b => decide (a.1 ≤ b.1)
    print (String.join (traps.map fun (signal, action) =>
      "trap -- " ++ quotedText action ++ " " ++ Signal.name signal ++ "\n"))
  | action :: signals =>
    if signals = [] then setTraps none [action]
    else if action = "-" then setTraps none signals
    else if action.toList.all Char.isDigit && action != "" then setTraps none rest
    else setTraps (some action) signals

end Run

end UiScaffold.Shell
