import UiScaffold.Text.Letters

/-!
Which texts are patterns.

A pattern is a regular expression that needs no look-around, no reference to a group and no border
of words, so that it can be matched by a finite automaton. Braces never count repetitions here.
-/

set_option autoImplicit false
set_option relaxedAutoImplicit false

namespace UiScaffold.Text.Pattern

/-- The letters after a backslash that stand for a class of characters or for one character. -/
def plainEscapes : List Char := ['d', 'D', 's', 'S', 'w', 'W', 'a', 'f', 'n', 'r', 't', 'v']

def categories : List Char := ['C', 'L', 'M', 'N', 'P', 'S', 'Z']

def isHex (c : Char) : Bool :=
  c.isDigit || ('a' ≤ c && c ≤ 'f') || ('A' ≤ c && c ≤ 'F')

/-- What follows hexadecimal digits that spell a character, if enough of them stand next. -/
def hexEscape? (digits : Nat) (input : List Char) : Option (Nat × List Char) :=
  let written := input.take digits
  let value : Nat := written.foldl (fun n c => n * 16 +
    (if c.isDigit then c.toNat - '0'.toNat else c.toLower.toNat - 'a'.toNat + 10)) 0
  if written.length = digits ∧ written.all isHex = true ∧ value.isValidChar then
    some (value, input.drop digits)
  else none

/-- What an escape stands for. -/
inductive Meaning where
  | char (code : Nat)
  /-- A class of several characters. -/
  | several
  /-- A place in the text. -/
  | place

def escape? : List Char → Option (Meaning × List Char)
  | [] => none
  | 'x' :: rest => (hexEscape? 2 rest).map fun (n, rest) => (.char n, rest)
  | 'u' :: rest => (hexEscape? 4 rest).map fun (n, rest) => (.char n, rest)
  | 'U' :: rest => (hexEscape? 8 rest).map fun (n, rest) => (.char n, rest)
  | 'p' :: c :: rest => if categories.contains c then some (.several, rest) else none
  | 'P' :: c :: rest => if categories.contains c then some (.several, rest) else none
  | 'A' :: rest => some (.place, rest)
  | 'z' :: rest => some (.place, rest)
  | c :: rest =>
    if ['d', 'D', 's', 'S', 'w', 'W'].contains c then some (.several, rest)
    else if plainEscapes.contains c then some (.char c.toNat, rest)
    else if c.toNat < 0x80 && !c.isAlphanum && c != '<' && c != '>' then some (.char c.toNat, rest)
    else none

def setNames : List String :=
  ["alnum", "alpha", "ascii", "blank", "cntrl", "digit", "graph", "lower", "print", "punct",
    "space", "upper", "word", "xdigit"]

/-- What follows a named class in a set, after its opening bracket. -/
def namedClass? : List Char → Option (List Char)
  | ':' :: rest =>
    let rest := match rest with
      | '^' :: more => more
      | other => other
    let name := rest.takeWhile (· ≠ ':')
    match rest.dropWhile (· ≠ ':') with
    | ':' :: ']' :: after => if setNames.contains (String.ofList name) then some after else none
    | _ => none
  | _ => none

def setItem? : List Char → Option (Meaning × List Char)
  | [] => none
  | '\\' :: rest =>
    match escape? rest with
    | some (.place, _) => none
    | other => other
  | c :: rest => some (.char c.toNat, rest)

/-- Reads sets up to the end of the outermost one; gives what follows. `depth` counts those that are
open inside it, and a set that has just been opened may start with a closing bracket. -/
def skipSet (fuel depth : Nat) (opened : Bool) (input : List Char) : Option (List Char) :=
  match fuel with
  | 0 => none
  | fuel + 1 =>
    match opened, input with
    | _, [] => none
    | true, '^' :: ']' :: rest => skipSet fuel depth false rest
    | true, '^' :: '-' :: rest => skipSet fuel depth true ('-' :: rest)
    | true, '^' :: rest => skipSet fuel depth false rest
    | true, '-' :: rest => skipSet fuel depth true rest
    | true, ']' :: rest => skipSet fuel depth false rest
    | _, ']' :: rest => if depth = 0 then some rest else skipSet fuel (depth - 1) false rest
    | _, '[' :: rest =>
      match namedClass? rest with
      | some after => skipSet fuel depth false after
      | none => skipSet fuel (depth + 1) true rest
    | _, '&' :: '&' :: rest => skipSet fuel depth false rest
    | _, '-' :: '-' :: rest => skipSet fuel depth false rest
    | _, '~' :: '~' :: rest => skipSet fuel depth false rest
    | _, other =>
      match setItem? other with
      | none => none
      | some (low, '-' :: next :: rest) =>
        if next = ']' ∨ next = '-' then skipSet fuel depth false ('-' :: next :: rest)
        else match low, setItem? (next :: rest) with
          | .char a, some (.char b, rest) => if a ≤ b then skipSet fuel depth false rest else none
          | _, _ => none
      | some (_, rest) => skipSet fuel depth false rest

/-- Reads the flags of a group; gives the mark that ends them and what follows. -/
def skipFlags (seen : List Char) (negated : Bool) : List Char → Option (Char × List Char)
  | [] => none
  | c :: rest =>
    if c = ':' ∨ c = ')' then
      if negated && seen.head? == some '-' then none
      else if c = ')' ∧ seen = [] then none
      else some (c, rest)
    else if seen.contains c then none
    else if c = '-' then skipFlags (c :: seen) true rest
    else if ['i', 'm', 's', 'U', 'u', 'R', 'x'].contains c then skipFlags (c :: seen) negated rest
    else none

def groupName? (input : List Char) : Option (String × List Char) :=
  let name := input.takeWhile (· ≠ '>')
  match name, input.dropWhile (· ≠ '>') with
  | c :: more, '>' :: rest =>
    if (c == '_' || isAlphanumeric c && !c.isDigit) &&
        more.all (fun d => isAlphanumeric d || ['_', '.', '[', ']'].contains d) then
      some (String.ofList name, rest)
    else none
  | _, _ => none

/-- Whether the rest of a pattern is well formed. `groups` counts the open groups, `names` are the
names of groups so far, and `repeatable` tells whether something stands before that can be
repeated. -/
def isRest (fuel groups : Nat) (names : List String) (repeatable : Bool) (input : List Char) :
    Bool :=
  match fuel with
  | 0 => false
  | fuel + 1 =>
    let named (rest : List Char) := match groupName? rest with
      | some (name, after) =>
        !names.contains name && isRest fuel (groups + 1) (name :: names) false after
      | none => false
    match input with
    | [] => groups == 0
    | '(' :: '?' :: '=' :: _ => false
    | '(' :: '?' :: '!' :: _ => false
    | '(' :: '?' :: '<' :: '=' :: _ => false
    | '(' :: '?' :: '<' :: '!' :: _ => false
    | '(' :: '?' :: '<' :: rest => named rest
    | '(' :: '?' :: 'P' :: '<' :: rest => named rest
    | '(' :: '?' :: rest =>
      match skipFlags [] false rest with
      | some (':', after) => isRest fuel (groups + 1) names false after
      | some (_, after) => isRest fuel groups names false after
      | none => false
    | '(' :: rest => isRest fuel (groups + 1) names false rest
    | ')' :: rest => decide (0 < groups) && isRest fuel (groups - 1) names true rest
    | '|' :: rest => isRest fuel groups names false rest
    | '[' :: rest =>
      match skipSet fuel 0 true rest with
      | some after => isRest fuel groups names true after
      | none => false
    | '\\' :: rest =>
      match escape? rest with
      | some (_, after) => isRest fuel groups names true after
      | none => false
    | '{' :: _ => false
    | c :: rest =>
      if c = '*' ∨ c = '+' ∨ c = '?' then repeatable && isRest fuel groups names true rest
      else isRest fuel groups names true rest

/-- Whether a text is a pattern. Each step takes a character. -/
def isPattern (text : String) : Bool := isRest (text.length + 1) 0 [] false text.toList

end UiScaffold.Text.Pattern
