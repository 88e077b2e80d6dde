import UiScaffold.Shell.Word

/-!
Tokens, and what is wrong with a script that cannot be read.
-/

set_option autoImplicit false
set_option relaxedAutoImplicit false

namespace UiScaffold.Shell

/-- The signs that redirect a descriptor. -/
inductive RedirectionSign where
  | source
  | sink
  | replaced
  | extended
  | bothWays
  | descriptor
  /-- A text follows; the tabs in front of its lines may be dropped. -/
  | document (dropsTabs : Bool)
deriving DecidableEq, Repr

/-- A unit of a script. -/
inductive Token where
  | word (word : Word)
  | keyword (spelling : String)
  /-- A sign other than a redirection. -/
  | sign (spelling : String)
  | redirection (descriptor : Nat) (sign : RedirectionSign)
  | newline
  | finish
deriving Repr

def Token.name : Token → String
  | word _ => "word"
  | keyword spelling | sign spelling => "\"" ++ spelling ++ "\""
  | redirection .. => "redirection"
  | newline => "newline"
  | finish => "end of file"

/-- Why a script cannot be read. -/
inductive SyntaxFault where
  /-- A token that must not stand there, and the one that must. -/
  | unexpected (found : String) (expected : Option String)
  | openQuote
  | openBrace
  | openArithmetic
  | openSubstitution
  | badLoopName
  | badFunctionName
  | badDescriptor
deriving DecidableEq, Repr

namespace SyntaxFault

def message (fault : SyntaxFault) : String :=
  "Syntax error: " ++ match fault with
  | unexpected found none => found ++ " unexpected"
  | unexpected found (some expected) => found ++ " unexpected (expecting " ++ expected ++ ")"
  | openQuote => "Unterminated quoted string"
  | openBrace => "Missing '\x7d'"
  | openArithmetic => "Missing '))'"
  | openSubstitution => "EOF in backquote substitution"
  | badLoopName => "Bad for loop variable"
  | badFunctionName => "Bad function name"
  | badDescriptor => "Bad fd number"

end SyntaxFault

end UiScaffold.Shell
