import UiScaffold.Shell.Spelling
import UiScaffold.Shell.Statement

/-!
From tokens to statements.

A script is read one line at a time, or further if a construct goes on, so that what stands before a
fault has run when the fault is found. A word is a keyword only where a command can start.
-/

set_option autoImplicit false
set_option relaxedAutoImplicit false

namespace UiScaffold.Shell

def keywords : List String :=
  ["!", "case", "do", "done", "elif", "else", "esac", "fi", "for", "if", "in", "then", "until",
    "while", "\x7b", "\x7d"]

def closers : List String :=
  ["do", "done", "elif", "else", "esac", "fi", "then", "\x7d", ")", ";;"]

/-- The commands whose failure ends a script; functions cannot have their names. -/
def specialCommands : List String :=
  [".", ":", "break", "continue", "eval", "exec", "exit", "export", "local", "readonly", "return",
    "set", "shift", "times", "trap", "unset"]

namespace Token

def isKeyword (token : Token) (spelling : String) : Bool :=
  match token with
  | keyword found => found == spelling
  | _ => false

def isSign (token : Token) (spelling : String) : Bool :=
  match token with
  | sign found => found == spelling
  | _ => false

def isCloser : Token → Bool
  | keyword spelling | sign spelling => closers.contains spelling
  | finish => true
  | _ => false

/-- The keyword that a word spells, or the token itself. -/
def promoted : Token → Token
  | word w =>
    match w.bare? with
    | some spelling => if keywords.contains spelling then keyword spelling else word w
    | none => word w
  | token => token

def asWord : Token → Word
  | word w => w
  | keyword spelling => [.text spelling false]
  | _ => []

end Token

def skipBlanks : Reading Unit := do
  let _ ← Reading.takeWhile fun c => c == ' ' || c == '\t'
  if (← Reading.peek) = some '#' then
    modify fun source => { source with rest := source.rest.dropWhile (· ≠ '\n') }

/-- The descriptor of a redirection after a word, if the word chooses one or is empty. -/
def chosenDescriptor? (word : Word) (usual : Nat) : Option Nat :=
  match word with
  | [] => some usual
  | _ =>
    match word.bare?.map String.toList with
    | some [c] => if c.isDigit then some (c.toNat - '0'.toNat) else none
    | _ => none

def readRedirectionSign : Reading RedirectionSign := do
  if (← Reading.next) = some '>' then
    if ← Reading.accept '>' then return .extended
    else if ← Reading.accept '|' then return .replaced
    else if ← Reading.accept '&' then return .descriptor
    else return .sink
  else if ← Reading.accept '<' then return .document (← Reading.accept '-')
  else if ← Reading.accept '&' then return .descriptor
  else if ← Reading.accept '>' then return .bothWays
  else return .source

def readSign (c : Char) : Reading Token := do
  Reading.skip
  if ← Reading.accept c then return .sign (String.ofList [c, c])
  else return .sign (String.singleton c)

def readFreshToken (pass passAll : Reading Unit) : Reading Token := do
  skipBlanks
  match ← Reading.peek with
  | none => return .finish
  | some '\n' =>
    Reading.skip
    return .newline
  | some '(' =>
    Reading.skip
    return .sign "("
  | some ')' =>
    Reading.skip
    return .sign ")"
  | some c =>
    if c = '&' ∨ c = '|' ∨ c = ';' then readSign c
    else
      let word ← readWord pass passAll .nothing
      let usual? := match ← Reading.peek with
        | some '<' => some 0
        | some '>' => some 1
        | _ => none
      match usual?.bind (chosenDescriptor? word) with
      | some descriptor => return .redirection descriptor (← readRedirectionSign)
      | none => return .word word

/-- The lines of a text up to one that ends it, and what comes after that. In a text that is filled
in, a backslash joins lines. -/
def takeDocument (ending : List Char) (isPlain dropsTabs : Bool) :
    Nat → List Char → List (List Char) × List Char
  | 0, rest => ([], rest)
  | _ + 1, [] => ([], [])
  | fuel + 1, rest =>
    let rest := if dropsTabs then rest.dropWhile (· == '\t') else rest
    let line := rest.takeWhile (· ≠ '\n')
    let after := (rest.dropWhile (· ≠ '\n')).drop 1
    if line = ending then ([], after)
    else
      let backslashes := (line.reverse.takeWhile (· == '\\')).length
      let (lines, last) := takeDocument ending isPlain dropsTabs fuel after
      -- The next line is taken in even if it would have ended the text by itself.
      if !isPlain && backslashes % 2 == 1 then
        let more := after.takeWhile (· ≠ '\n')
        let next := (after.dropWhile (· ≠ '\n')).drop 1
        let (lines, last) := takeDocument ending isPlain dropsTabs fuel next
        ((line ++ '\n' :: more ++ ['\n']) :: lines, last)
      else if rest.contains '\n' then ((line ++ ['\n']) :: lines, last)
      else (line :: lines, last)

def readDocument (pass passAll : Reading Unit) (announcement : Announcement) : Reading Unit := do
  let source ← get
  let (lines, rest) := takeDocument announcement.ending announcement.isPlain
    announcement.dropsTabs (source.rest.length + 1) source.rest
  let text := lines.flatten
  let word ←
    if announcement.isPlain then pure [.text (String.ofList text) true]
    else Reading.within text source.line (readWord pass passAll .document)
  let passed := (source.rest.take (source.rest.length - rest.length)).count '\n'
  modify fun inner => { source with
    rest
    line := source.line + passed
    documents := inner.documents.set announcement.index word }

def readDocuments (pass passAll : Reading Unit) : Reading Unit := do
  let announced := (← get).announced
  modify fun source => { source with announced := [] }
  announced.forM (readDocument pass passAll)

/-- Goes past newlines, from a given token on. -/
def passNewlines (pass passAll : Reading Unit) : Nat → Token → Reading Token
  | 0, token => return token
  | fuel + 1, .newline => do
    readDocuments pass passAll
    passNewlines pass passAll fuel (← readFreshToken pass passAll)
  | _ + 1, token => return token

/-- Where the next token stands: whether newlines before it mean nothing, whether it can be a
keyword, and whether it can be the name of a command. -/
structure Position where
  overNewlines : Bool
  takesKeywords : Bool
  takesAliases : Bool

namespace Position

def inCommand : Position := ⟨false, false, false⟩

def name : Position := ⟨false, false, true⟩

def command : Position := ⟨false, true, true⟩

def anywhere : Position := ⟨true, true, true⟩

def pattern : Position := ⟨true, true, false⟩

end Position

/-- The names whose texts were still being read where the token with this name starts. -/
def Source.stillInUse (source : Source) (name : String) : List (String × Nat) :=
  source.inUse.filter fun (_, left) => left < source.rest.length + name.length

/-- The text that a token stands for as the name of a command, unless that text is being read. -/
def aliasText? (source : Source) (token : Token) : Option (String × List Char) :=
  match token with
  | .word word =>
    match word.bare? with
    | some name =>
      if (source.stillInUse name).any (·.1 == name) then none
      else (source.aliases.lookup name).map fun text => (name, text.toList)
    | none => none
  | _ => none

def maxAliases : Nat := 100

/-- Reads a token that was not put back. -/
def readNewToken (pass passAll : Reading Unit) (position : Position) : Nat → Reading Token
  | 0 => readFreshToken pass passAll
  | fuel + 1 => do
    let token ← readFreshToken pass passAll
    let token ←
      if position.overNewlines then
        passNewlines pass passAll ((← get).rest.length + 1) token
      else pure token
    let token := if position.takesKeywords then token.promoted else token
    let source ← get
    match if position.takesAliases then aliasText? source token else none with
    | none => return token
    | some (name, text) =>
      -- The name counts as being read until what stands behind it now is reached.
      modify fun source => { source with
        rest := text ++ source.rest
        inUse := (name, source.rest.length) :: source.stillInUse name }
      readNewToken pass passAll position fuel

def readToken (pass passAll : Reading Unit) (position : Position) : Reading Token := do
  match (← get).returned with
  | none => readNewToken pass passAll position maxAliases
  | some token =>
    modify fun source => { source with returned := none }
    match token, position.overNewlines with
    | .newline, true =>
      readDocuments pass passAll
      readNewToken pass passAll position maxAliases
    | _, _ => return if position.takesKeywords then token.promoted else token

def putBack (token : Token) : Reading Unit :=
  modify fun source => { source with returned := some token }

def refuse {α : Type} (token : Token) : Reading α := Reading.fail (.unexpected token.name none)

def refuseFor {α : Type} (token expected : Token) : Reading α :=
  Reading.fail (.unexpected token.name (some expected.name))

/-- The text that ends a document, from the word that announces it. -/
def endingOf (word : Word) : List Char :=
  (String.join (word.map fun
    | .text text _ => text
    | _ => "")).toList

def hasQuotes (word : Word) : Bool :=
  word.any fun
    | .text _ quoted => quoted
    | .quotes => true
    | _ => false

def readRedirection (descriptor : Nat) (sign : RedirectionSign) (word : Word) :
    Reading Redirection := do
  match sign with
  | .source => return ⟨descriptor, .source word⟩
  | .sink => return ⟨descriptor, .sink word⟩
  | .replaced => return ⟨descriptor, .replaced word⟩
  | .extended => return ⟨descriptor, .extended word⟩
  | .bothWays => return ⟨descriptor, .bothWays word⟩
  | .descriptor => return ⟨descriptor, .descriptor word⟩
  | .document dropsTabs =>
    let index := (← get).documents.length
    modify fun source => { source with
      documents := source.documents ++ [[]]
      announced := source.announced ++ [⟨index, endingOf word, hasQuotes word, dropsTabs⟩] }
    return ⟨descriptor, .document index⟩

/-- Where a list of statements may end. -/
inductive Extent where
  /-- At the end of a line. -/
  | line
  /-- At a closing word, after one statement at least. -/
  | block
  /-- At a closing word. -/
  | body
deriving DecidableEq, Repr

def Statement.after : Option Statement → Statement → Statement
  | none, statement => statement
  | some before, statement => .sequence before statement

def Statement.inBackground : Statement → Statement
  | .redirected line body redirections => .background line body redirections
  | .apart line body redirections => .background line (.apart line body redirections) []
  | statement => .background 0 statement []

/-- The redirections of a compound command, in its statement. -/
def Statement.redirecting (line : Nat) (redirections : List Redirection) : Statement → Statement
  | .apart own body _ => .apart own body redirections
  | statement => if redirections.isEmpty then statement else .redirected line statement redirections

mutual

def passCommands : Nat → Reading Unit
  | 0 => return ()
  | fuel + 1 => do
    let _ ← readList fuel .body none
    let token ← takeToken fuel .inCommand
    if token.isSign ")" then return () else refuseFor token (.sign ")")

/-- Goes past the commands of a whole text. -/
def passText : Nat → Reading Unit
  | 0 => return ()
  | fuel + 1 => do
    let _ ← readList fuel .body none

def takeToken : Nat → Position → Reading Token
  | 0, _ => return .finish
  | fuel + 1, position => readToken (passCommands fuel) (passText fuel) position

def takeDocuments : Nat → Reading Unit
  | 0 => return ()
  | fuel + 1 => readDocuments (passCommands fuel) (passText fuel)

/-- Reads statements; `before` are those that were read already. There is no result if there is
nothing more to read. -/
def readList : Nat → Extent → Option Statement → Reading (Option Statement)
  | 0, _, before => return before
  | fuel + 1, extent, before => do
    let token ← takeToken fuel (if extent = .line then .command else .anywhere)
    match token with
    | .newline =>
      takeDocuments fuel
      return some (before.getD .nothing)
    | .finish =>
      takeDocuments fuel
      putBack .finish
      if extent = .line then return before else return some (before.getD .nothing)
    | _ =>
      putBack token
      if token.isCloser && (extent == .body || (extent == .block && before.isSome)) then
        return some (before.getD .nothing)
      let statement ← readChain fuel
      let token ← takeToken fuel .inCommand
      let statement := if token.isSign "&" then statement.inBackground else statement
      let all := Statement.after before statement
      match token with
      | .newline =>
        putBack token
        readList fuel extent (some all)
      | .finish =>
        takeDocuments fuel
        putBack .finish
        return some all
      | _ =>
        if token.isSign "&" || token.isSign ";" then readList fuel extent (some all)
        else if extent = .line then refuse token
        else
          putBack token
          return some all

def readChain : Nat → Reading Statement
  | 0 => return .nothing
  | fuel + 1 => do
    extendChain fuel (← readPipeline fuel .inCommand)

def extendChain : Nat → Statement → Reading Statement
  | 0, first => return first
  | fuel + 1, first => do
    let token ← takeToken fuel .inCommand
    if token.isSign "&&" then
      extendChain fuel (.both first (← readPipeline fuel .anywhere))
    else if token.isSign "||" then
      extendChain fuel (.either first (← readPipeline fuel .anywhere))
    else
      putBack token
      return first

def readPipeline : Nat → Position → Reading Statement
  | 0, _ => return .nothing
  | fuel + 1, position => do
    let token ← takeToken fuel position
    let isNegated := token.isKeyword "!"
    let first ←
      if isNegated then readCommand fuel .command
      else do
        putBack token
        readCommand fuel .inCommand
    let more ← readParts fuel
    let statement := if more.isEmpty then first else .pipeline (first :: more)
    return if isNegated then .negation statement else statement

def readParts : Nat → Reading (List Statement)
  | 0 => return []
  | fuel + 1 => do
    let token ← takeToken fuel .inCommand
    if token.isSign "|" then
      let part ← readCommand fuel .anywhere
      return part :: (← readParts fuel)
    else
      putBack token
      return []

def readCommand : Nat → Position → Reading Statement
  | 0, _ => return .nothing
  | fuel + 1, position => do
    let line := (← get).line
    let token ← takeToken fuel position
    match token with
    | .word _ | .redirection .. =>
      putBack token
      readSimple fuel
    | .keyword "if" => readCompound fuel line (.keyword "fi") (← readConditional fuel)
    | .keyword "while" => readCompound fuel line (.keyword "done") (← readLoop fuel true)
    | .keyword "until" => readCompound fuel line (.keyword "done") (← readLoop fuel false)
    | .keyword "for" => readCompound fuel line (.keyword "done") (← readEach fuel line)
    | .keyword "case" => readRedirected fuel line (← readChoice fuel line)
    | .keyword "\x7b" => readCompound fuel line (.keyword "\x7d") (← readBlock fuel)
    | .sign "(" => readCompound fuel line (.sign ")") (.apart line (← readBlock fuel) [])
    | _ => refuse token

/-- Reads the word that closes a construct, and its redirections. -/
def readCompound : Nat → Nat → Token → Statement → Reading Statement
  | 0, _, _, statement => return statement
  | fuel + 1, line, closer, statement => do
    expect fuel closer
    readRedirected fuel line statement

def readRedirected : Nat → Nat → Statement → Reading Statement
  | 0, _, statement => return statement
  | fuel + 1, line, statement => do
    return statement.redirecting line (← readRedirections fuel .command)

/-- Reads redirections. A word right behind one of them is no keyword. -/
def readRedirections : Nat → Position → Reading (List Redirection)
  | 0, _ => return []
  | fuel + 1, position => do
    match ← takeToken fuel position with
    | .redirection descriptor sign =>
      let redirection ← readTarget fuel descriptor sign
      return redirection :: (← readRedirections fuel .inCommand)
    | token =>
      putBack token
      return []

def readTarget : Nat → Nat → RedirectionSign → Reading Redirection
  | 0, descriptor, sign => readRedirection descriptor sign []
  | fuel + 1, descriptor, sign => do
    match ← takeToken fuel .inCommand with
    | .word word => readRedirection descriptor sign word
    | token => refuse token

def expect : Nat → Token → Reading Unit
  | 0, _ => return ()
  | fuel + 1, expected => do
    let token ← takeToken fuel .inCommand
    if token.name = expected.name then return () else refuseFor token expected

def readBlock : Nat → Reading Statement
  | 0 => return .nothing
  | fuel + 1 => return (← readList fuel .block none).getD .nothing

def readConditional : Nat → Reading Statement
  | 0 => return .nothing
  | fuel + 1 => do
    let test ← readBlock fuel
    expect fuel (.keyword "then")
    let yes ← readBlock fuel
    let token ← takeToken fuel .inCommand
    if token.isKeyword "elif" then return .conditional test yes (← readConditional fuel)
    else if token.isKeyword "else" then return .conditional test yes (← readBlock fuel)
    else
      putBack token
      return .conditional test yes .nothing

def readLoop : Nat → Bool → Reading Statement
  | 0, _ => return .nothing
  | fuel + 1, wanted => do
    let test ← readBlock fuel
    expect fuel (.keyword "do")
    return .loop wanted test (← readBlock fuel)

def readEach : Nat → Nat → Reading Statement
  | 0, _ => return .nothing
  | fuel + 1, line => do
    let name ← match ← takeToken fuel .inCommand with
      | .word word =>
        match word.bare? with
        | some name => if isName name then pure name else Reading.fail .badLoopName
        | none => Reading.fail .badLoopName
      | _ => Reading.fail .badLoopName
    let token ← takeToken fuel .anywhere
    let words ←
      if token.isKeyword "in" then readWords fuel
      else do
        if !token.isSign ";" then putBack token
        pure [[.parameter .arguments true]]
    let token ← takeToken fuel .anywhere
    if !token.isKeyword "do" then refuseFor token (.keyword "do")
    return .each line name words (← readBlock fuel)

/-- Reads the words of a loop up to the end of the line or a semicolon. -/
def readWords : Nat → Reading (List Word)
  | 0 => return []
  | fuel + 1 => do
    match ← takeToken fuel .inCommand with
    | .word word => return word :: (← readWords fuel)
    | .newline => return []
    | token => if token.isSign ";" then return [] else refuse token

def readChoice : Nat → Nat → Reading Statement
  | 0, _ => return .nothing
  | fuel + 1, line => do
    match ← takeToken fuel .inCommand with
    | .word subject =>
      let token ← takeToken fuel .anywhere
      if !token.isKeyword "in" then refuseFor token (.keyword "in")
      return .choice line subject (← readBranches fuel)
    | token => refuseFor token (.word [])

def readBranches : Nat → Reading (List (List Word × Statement))
  | 0 => return []
  | fuel + 1 => do
    let token ← takeToken fuel .pattern
    if token.isKeyword "esac" then return []
    let token ← if token.isSign "(" then takeToken fuel .inCommand else pure token
    let patterns ← readPatterns fuel token
    let body := (← readList fuel .body none).getD .nothing
    let token ← takeToken fuel .pattern
    if token.isKeyword "esac" then return [(patterns, body)]
    else if token.isSign ";;" then return (patterns, body) :: (← readBranches fuel)
    else refuseFor token (.sign ";;")

def readPatterns : Nat → Token → Reading (List Word)
  | 0, _ => return []
  | fuel + 1, first => do
    let token ← takeToken fuel .inCommand
    if token.isSign "|" then
      return first.asWord :: (← readPatterns fuel (← takeToken fuel .inCommand))
    else if token.isSign ")" then return [first.asWord]
    else refuseFor token (.sign ")")

def readSimple : Nat → Reading Statement
  | 0 => return .nothing
  | fuel + 1 => do
    let first ← takeToken fuel .inCommand
    let line := (← get).line
    putBack first
    readParameters fuel ⟨line, [], [], []⟩

def readParameters : Nat → SimpleCommand → Reading Statement
  | 0, command => return .simple command
  | fuel + 1, command => do
    match ← takeToken fuel (if command.words.isEmpty then .name else .inCommand) with
    | .word word =>
      match command.words, word.assignment? with
      | [], some assignment =>
        readParameters fuel
          { command with assignments := command.assignments ++ [assignment] }
      | _, _ => readParameters fuel { command with words := command.words ++ [word] }
    | .redirection descriptor sign =>
      let redirection ← readTarget fuel descriptor sign
      readParameters fuel { command with redirections := command.redirections ++ [redirection] }
    | token =>
      match token, command with
      | .sign "(", ⟨_, [], [name], []⟩ => readDefinition fuel name
      | _, _ =>
        putBack token
        return .simple command

/-- Reads the definition of a function after its opening parenthesis. -/
def readDefinition : Nat → Word → Reading Statement
  | 0, _ => return .nothing
  | fuel + 1, word => do
    expect fuel (.sign ")")
    match word.bare? with
    | some name =>
      if isName name && !specialCommands.contains name then
        return .definition name (← readCommand fuel .anywhere)
      else Reading.fail .badFunctionName
    | none => Reading.fail .badFunctionName

end

/-- How deep the reading of a text can go: every construct takes a character at least. -/
def depthOf (source : Source) : Nat := 16 * source.rest.length + 64

/-- Reads the statements of the next line, if there is one. -/
def readLine : Reading (Option Statement) := do
  modify fun source => { source with returned := none, announced := [] }
  readList (depthOf (← get)) .line none

def readCommands : Reading Statement := do
  return (← readList (depthOf (← get)) .body none).getD .nothing

end UiScaffold.Shell
