import UiScaffold.Shell.Source

/-!
From characters to words.

Outside of quotes, blanks and signs end a word. Between double quotes only the dollar sign, the
backquote and the backslash keep their meaning, and between single quotes nothing does. Commands
within a word are passed over by a reading that is given from outside, and kept as text.
-/

set_option autoImplicit false
set_option relaxedAutoImplicit false

namespace UiScaffold.Shell

/-- What the pieces that are read stand in. -/
inductive Enclosure where
  /-- Nothing; a sign ends the word. -/
  | nothing
  | quotes
  /-- The braces of a parameter, perhaps between quotes. -/
  | braces (quoted : Bool)
  /-- The parentheses of an expression, of which some more are open. -/
  | parentheses (depth : Nat)
  /-- A text that follows a command. -/
  | document

namespace Enclosure

def isQuoted : Enclosure → Bool
  | nothing | braces false => false
  | _ => true

def fault? : Enclosure → Option SyntaxFault
  | nothing | document => none
  | quotes | braces true => some .openQuote
  | braces false => some .openBrace
  | parentheses _ => some .openArithmetic

def isEscapable (enclosure : Enclosure) (c : Char) : Bool :=
  match enclosure with
  | nothing | braces false => true
  | quotes | parentheses _ => c == '\\' || c == '$' || c == '\x60' || c == '\"'
  | braces true => c == '\\' || c == '$' || c == '\x60' || c == '\"' || c == '\x7d'
  | document => c == '\\' || c == '$' || c == '\x60'

end Enclosure

def isSeparator (c : Char) : Bool := " \t\n;&|<>()".toList.contains c

def special? (c : Char) : Option Parameter :=
  if c = '@' then some .arguments
  else if c = '*' then some .joined
  else if c = '#' then some .count
  else if c = '?' then some .status
  else if c = '$' then some .process
  else if c = '!' then some .background
  else if c = '-' then some .options
  else none

def argumentOf (digits : List Char) : Parameter :=
  .argument (digits.foldl (fun n d => n * 10 + (d.toNat - '0'.toNat)) 0)

/-- What follows the name of a parameter in braces. -/
inductive Operation where
  | nothing
  | fallback (kind : Fallback) (orEmpty : Bool)
  | trimmed (trimming : Trimming)
  | meaningless
  /-- The closing brace after a colon, which leaves the braces open. -/
  | bareColon

/-- The kind of a character that introduces a word for a missing value. -/
def fallback? (c : Char) : Option Fallback :=
  if c = '-' then some .use
  else if c = '=' then some .assign
  else if c = '?' then some .complain
  else if c = '+' then some .replace
  else none

def readOperation : Reading Operation := do
  match ← Reading.next with
  | some '\x7d' => return .nothing
  | some '%' => return .trimmed ⟨true, ← Reading.accept '%'⟩
  | some '#' => return .trimmed ⟨false, ← Reading.accept '#'⟩
  | some ':' =>
    match ← Reading.next with
    | some '\x7d' => return .bareColon
    | some c => return ((fallback? c).map (Operation.fallback · true)).getD .meaningless
    | none => return .meaningless
  | some c => return ((fallback? c).map (Operation.fallback · false)).getD .meaningless
  | none => return .meaningless

/-- Reads the name of a parameter, if one stands here. -/
def readName? : Reading (Option Parameter) := do
  match ← Reading.peek with
  | some c =>
    if isNameStart c then
      return some (.variable (String.ofList (← Reading.takeWhile isNameChar)))
    else if c.isDigit then return some (argumentOf (← Reading.takeWhile Char.isDigit))
    else return none
  | none => return none

/-- Reads a special parameter and what is done with it; `taken` is its character. -/
def readSpecial (taken : Char) : Reading (Option Parameter × Operation) := do
  match special? taken with
  | none => return (none, .meaningless)
  | some parameter => return (some parameter, ← readOperation)

/-- Reads what follows an opening brace up to the word in the braces. The last part of the result
tells whether the length is asked for. -/
def readBraceHead : Reading (Option Parameter × Operation × Bool) := do
  match ← readName? with
  | some parameter => return (some parameter, ← readOperation, false)
  | none =>
    match ← Reading.peek with
    | some '\x7d' | none => return (none, .meaningless, false)
    | some '#' =>
      Reading.skip
      match ← readName? with
      | some parameter =>
        return (some parameter, if ← Reading.accept '\x7d' then .nothing else .meaningless, true)
      | none =>
        let before ← get
        let inner ← Reading.next
        if inner ≠ some '\x7d' && (← Reading.accept '\x7d') then
          let parameter := inner.bind special?
          return (parameter, if parameter.isSome then .nothing else .meaningless, true)
        else
          set before
          let (parameter, operation) ← readSpecial '#'
          return (parameter, operation, false)
    | some c =>
      Reading.skip
      let (parameter, operation) ← readSpecial c
      return (parameter, operation, false)

/-- The text of commands between backquotes, up to the closing one. -/
def readBackquoted (quoted : Bool) : Nat → List Char → Reading (List Char)
  | 0, _ => Reading.fail .openSubstitution
  | fuel + 1, taken => do
    match ← Reading.next with
    | none => Reading.fail .openSubstitution
    | some '\x60' => return taken.reverse
    | some '\\' =>
      match ← Reading.peekPlain with
      | none => Reading.fail .openSubstitution
      | some c =>
        Reading.skip
        if c = '\\' ∨ c = '\x60' ∨ c = '$' ∨ (quoted = true ∧ c = '\"') then
          readBackquoted quoted fuel (c :: taken)
        else readBackquoted quoted fuel (c :: '\\' :: taken)
    | some c => readBackquoted quoted fuel (c :: taken)

/-- Reads commands up to the end of a substitution and gives their text. -/
def readSubstitution (pass : Reading Unit) : Reading String := do
  let before ← get
  set { before with announced := [] }
  pass
  let after ← get
  set { after with announced := before.announced }
  let length := before.rest.length - after.rest.length - 1
  return String.ofList (before.rest.take length)

def readSingleQuoted : Nat → Word → Reading Word
  | 0, _ => Reading.fail .openQuote
  | fuel + 1, pieces => do
    match ← Reading.peekPlain with
    | none => Reading.fail .openQuote
    | some c =>
      Reading.skip
      if c = '\x27' then return pieces
      else readSingleQuoted fuel (pieces.addChar c true)

def endPieces (enclosure : Enclosure) (pieces : Word) : Reading Word :=
  match enclosure.fault? with
  | some fault => Reading.fail fault
  | none => return pieces.reverse

mutual

/-- Reads pieces up to the end of their enclosure; `pieces` are those before, in reverse. `pass`
reads commands up to the parenthesis that closes them, and `passAll` all commands of a text. -/
def readPieces (pass passAll : Reading Unit) :
    Nat → Enclosure → Word → Reading Word
  | 0, enclosure, pieces => endPieces enclosure pieces
  | fuel + 1, enclosure, pieces => do
    match ← Reading.peek with
    | none => endPieces enclosure pieces
    | some '\\' =>
      Reading.skip
      match ← Reading.peekPlain with
      | none => readPieces pass passAll fuel enclosure (pieces.addChar '\\' true)
      | some c =>
        Reading.skip
        if enclosure.isEscapable c then
          readPieces pass passAll fuel enclosure (pieces.addChar c true)
        else readPieces pass passAll fuel enclosure ((pieces.addChar '\\' true).addChar c true)
    | some '$' =>
      Reading.skip
      readPieces pass passAll fuel enclosure
        (← readDollar pass passAll fuel enclosure.isQuoted pieces)
    | some '\x60' =>
      Reading.skip
      let text ← readBackquoted enclosure.isQuoted (← get).rest.length.succ []
      Reading.within text 1 passAll
      readPieces pass passAll fuel enclosure
        (.output (String.ofList text) 1 enclosure.isQuoted :: pieces)
    | some c =>
      match enclosure with
      | .nothing =>
        if isSeparator c then return pieces.reverse
        else readOther pass passAll fuel enclosure pieces c
      | .quotes =>
        Reading.skip
        if c = '\"' then return pieces.reverse
        else readPieces pass passAll fuel enclosure (pieces.addChar c true)
      | .braces false =>
        if c = '\x7d' then
          Reading.skip
          return pieces.reverse
        else readOther pass passAll fuel enclosure pieces c
      | .braces true =>
        Reading.skip
        if c = '\x7d' then return pieces.reverse
        else if c = '\"' then
          let inner ← readPieces pass passAll fuel .quotes []
          readPieces pass passAll fuel enclosure (inner.reverse ++ pieces)
        else readPieces pass passAll fuel enclosure (pieces.addChar c true)
      | .parentheses depth =>
        Reading.skip
        if c = '(' then
          readPieces pass passAll fuel (.parentheses (depth + 1)) (pieces.addChar c true)
        else if c = ')' then
          match depth with
          | depth + 1 => readPieces pass passAll fuel (.parentheses depth) (pieces.addChar c true)
          | 0 =>
            if ← Reading.accept ')' then return pieces.reverse
            else readPieces pass passAll fuel enclosure (pieces.addChar c true)
        else readPieces pass passAll fuel enclosure (pieces.addChar c true)
      | .document =>
        Reading.skip
        readPieces pass passAll fuel enclosure (pieces.addChar c true)

/-- Reads on at a character outside of quotes that does not end the word. Quotes leave a mark, but
for those around all arguments: these make no word if there are none. -/
def readOther (pass passAll : Reading Unit) :
    Nat → Enclosure → Word → Char → Reading Word
  | 0, enclosure, pieces, _ => endPieces enclosure pieces
  | fuel + 1, enclosure, pieces, c => do
    Reading.skip
    if c = '\x27' then
      let inner ← readSingleQuoted (← get).rest.length.succ (.quotes :: pieces)
      readPieces pass passAll fuel enclosure (.quotes :: inner)
    else if c = '\"' then
      match ← readPieces pass passAll fuel .quotes [] with
      | [.parameter .arguments true] =>
        readPieces pass passAll fuel enclosure (.parameter .arguments true :: pieces)
      | inner =>
        readPieces pass passAll fuel enclosure (.quotes :: inner.reverse ++ .quotes :: pieces)
    else readPieces pass passAll fuel enclosure (pieces.addChar c false)

def readDollar (pass passAll : Reading Unit) : Nat → Bool → Word → Reading Word
  | 0, quoted, pieces => return pieces.addChar '$' quoted
  | fuel + 1, quoted, pieces => do
    match ← Reading.peek with
    | some '(' =>
      Reading.skip
      if ← Reading.accept '(' then
        return .arithmetic (← readPieces pass passAll fuel (.parentheses 0) []) quoted :: pieces
      else
        let line := (← get).line
        return .output (← readSubstitution pass) line quoted :: pieces
    | some '\x7b' =>
      Reading.skip
      return (← readBraces pass passAll fuel quoted) :: pieces
    | some c =>
      if isNameStart c then
        let name ← Reading.takeWhile isNameChar
        return .parameter (.variable (String.ofList name)) quoted :: pieces
      else if c.isDigit then
        Reading.skip
        return .parameter (argumentOf [c]) quoted :: pieces
      else
        match special? c with
        | some parameter =>
          Reading.skip
          return .parameter parameter quoted :: pieces
        | none => return pieces.addChar '$' quoted
    | none => return pieces.addChar '$' quoted

def readBraces (pass passAll : Reading Unit) : Nat → Bool → Reading Piece
  | 0, _ => Reading.fail .openBrace
  | fuel + 1, quoted => do
    let (parameter, operation, isLength) ← readBraceHead
    match parameter, operation with
    | some parameter, .nothing =>
      return if isLength then .length parameter quoted else .parameter parameter quoted
    | some parameter, .bareColon =>
      let _ ← readPieces pass passAll fuel (.braces quoted) []
      return .parameter parameter quoted
    | some parameter, .fallback kind orEmpty =>
      let word ← readPieces pass passAll fuel (.braces quoted) []
      return .fallback parameter kind orEmpty word quoted
    | some parameter, .trimmed trimming =>
      let pattern ← readPieces pass passAll fuel (.braces false) []
      return .trimmed parameter trimming pattern quoted
    | _, _ =>
      let _ ← readPieces pass passAll fuel (.braces quoted) []
      return .meaningless

end

/-- Reads the pieces of an enclosure. Every step goes past a character or into a construct. -/
def readWord (pass passAll : Reading Unit) (enclosure : Enclosure) : Reading Word := do
  readPieces pass passAll (4 * (← get).rest.length + 4) enclosure []

end UiScaffold.Shell
