/-!
What can be wrong with a JSON text, and where.

A fault names the part of the text that was not read yet and how many bytes of it belong to the
fault. The place of the fault is the number of bytes up to there; lines and columns are counted in
bytes too.
-/

set_option autoImplicit false
set_option relaxedAutoImplicit false

namespace UiScaffold.Json

/-- The ways in which a text is not a JSON document. -/
inductive Problem where
  | endInValue
  | endInList
  | endInObject
  | endInText
  | noValue
  | noWord
  | noColon
  | noListEnd
  | noObjectEnd
  | keyNotText
  | trailingComma
  | trailingCharacters
  | badNumber
  | numberOutOfRange
  | controlCharacter
  | badEscape
  | loneSurrogate
  | brokenPair
  | tooDeep
deriving DecidableEq, Repr

def Problem.message : Problem → String
  | endInValue => "EOF while parsing a value"
  | endInList => "EOF while parsing a list"
  | endInObject => "EOF while parsing an object"
  | endInText => "EOF while parsing a string"
  | noValue => "expected value"
  | noWord => "expected ident"
  | noColon => "expected `:`"
  | noListEnd => "expected `,` or `]`"
  | noObjectEnd => "expected `,` or `\x7d`"
  | keyNotText => "key must be a string"
  | trailingComma => "trailing comma"
  | trailingCharacters => "trailing characters"
  | badNumber => "invalid number"
  | numberOutOfRange => "number out of range"
  | controlCharacter => "control character (\\u0000-\\u001F) found while parsing a string"
  | badEscape => "invalid escape"
  | loneSurrogate => "lone leading surrogate in hex escape"
  | brokenPair => "unexpected end of hex escape"
  | tooDeep => "recursion limit exceeded"

/-- A problem, the text that is left where it was seen, and how many bytes of that text are part
of it. -/
structure Fault where
  problem : Problem
  rest : List Char
  extra : Nat

/-- A problem seen at the next character, which is part of it. -/
def Fault.atNext (problem : Problem) (rest : List Char) : Fault := ⟨problem, rest, 1⟩

/-- A problem seen right before what is left. -/
def Fault.before (problem : Problem) (rest : List Char) : Fault := ⟨problem, rest, 0⟩

def byteLength (chars : List Char) : Nat := (String.ofList chars).utf8ByteSize

/-- A problem with its place: lines count from one, and the column is the number of bytes of the
line up to the place. -/
structure ReadError where
  problem : Problem
  line : Nat
  column : Nat
deriving DecidableEq, Repr

def position (bytes : List UInt8) : Nat × Nat :=
  (bytes.count 0x0A + 1, (bytes.reverse.takeWhile (· ≠ 0x0A)).length)

/-- The place of a fault in a text, which ends no later than the text. -/
def Fault.locate (fault : Fault) (text : String) : ReadError :=
  let seen := text.utf8ByteSize - byteLength fault.rest + fault.extra
  let (line, column) := position (text.toUTF8.toList.take seen)
  ⟨fault.problem, line, column⟩

def ReadError.message (e : ReadError) : String :=
  e.problem.message ++ " at line " ++ e.line.repr ++ " column " ++ e.column.repr

end UiScaffold.Json
