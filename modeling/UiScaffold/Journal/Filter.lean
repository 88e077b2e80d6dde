import UiScaffold.Decimal.Power
import UiScaffold.Journal.Event
import UiScaffold.Text.Ascii
import UiScaffold.Text.Blank
import UiScaffold.Text.Numeral
import UiScaffold.Text.Pattern
import UiScaffold.Text.Slice

/-!
Which events are shown.

A filter is a list of rules, each with the greatest rank that it lets through and, unless it is
meant for all events, the start of the area that it is about and the names of details that an event
has to have. The rule that names most decides, and the last of several such rules; an event that no
rule is about is not shown.
-/

set_option autoImplicit false
set_option relaxedAutoImplicit false

namespace UiScaffold

structure FilterRule where
  /-- The start of the area; without one the rule is about all areas. -/
  area : Option String
  /-- The details that an event has to have. -/
  details : List String
  /-- The greatest rank that is shown; zero shows nothing. -/
  rank : Nat
deriving DecidableEq, Repr

abbrev Filter := List FilterRule

namespace FilterRule

def concerns (rule : FilterRule) (event : Event) : Bool :=
  (match rule.area with
    | some start => start.toList.isPrefixOf event.area.toList
    | none => true) &&
  rule.details.all fun name => name == "message" || (event.fields.map (·.1)).contains name

/-- How closely a rule names its area. -/
def precision (rule : FilterRule) : Nat :=
  match rule.area with
  | some start => start.utf8ByteSize + 1
  | none => 0

/-- What rules are ordered by: how closely they name their areas, how many details they name, and
for the sake of a definite order these names themselves. -/
def precedes (a b : FilterRule) : Bool :=
  if a.precision ≠ b.precision then a.precision < b.precision
  else if a.details.length ≠ b.details.length then a.details.length < b.details.length
  else if a.area ≠ b.area then a.area.getD "" < b.area.getD ""
  else a.details < b.details

end FilterRule

/-- A test of a detail: its name, and the text behind an equals sign. -/
structure DetailTest where
  name : String
  value : Option String
deriving DecidableEq, Repr

namespace DetailTest

def isUnsignedDecimal (chars : List Char) : Bool :=
  let whole := chars.takeWhile Char.isDigit
  let rest := chars.dropWhile Char.isDigit
  let (fraction, rest) := match rest with
    | '.' :: more => (more.takeWhile Char.isDigit, more.dropWhile Char.isDigit)
    | other => ([], other)
  !(whole ++ fraction).isEmpty &&
    match rest with
    | [] => true
    | e :: '+' :: digits => (e == 'e' || e == 'E') && !digits.isEmpty && digits.all Char.isDigit
    | e :: '-' :: digits => (e == 'e' || e == 'E') && !digits.isEmpty && digits.all Char.isDigit
    | e :: digits => (e == 'e' || e == 'E') && !digits.isEmpty && digits.all Char.isDigit

/-- A number with a plus sign, which no pattern could start with. -/
def isPlusNumber (value : String) : Bool :=
  match value.toList with
  | '+' :: chars =>
    isUnsignedDecimal chars ||
      ["inf", "infinity", "nan"].any (Text.sameFolded (String.ofList chars))
  | _ => false

/-- Reads a test; its value is a number or a pattern. -/
def read? (item : String) : Option DetailTest :=
  match Text.split '=' item with
  | [] => none
  | [name] => if name = "" then none else some ⟨name, none⟩
  | name :: value :: _ =>
    if isPlusNumber value || Text.Pattern.isPattern value then some ⟨name, some value⟩ else none

end DetailTest

/-- A rule as it is written. Beside an area it may name a span of time, in which an event has to
happen, and tests of details. -/
structure Directive where
  area : Option String
  span : Option String
  tests : List DetailTest
  rank : Nat

namespace Directive

/-- What may stand next, with the offset at which the present part starts. -/
inductive Stage where
  | start
  | levelOrArea (first : Nat)
  | span (first : Nat)
  | test (first : Nat)
  | testsEnd
  | spanEnd
  | level (first : Nat)

structure Draft where
  directive : Directive
  stage : Stage

/-- The rank of a level that is given by name or by number; no text at all means errors. -/
def rankOf? (text : String) : Option Nat :=
  match Text.naturalBelow? (twoTo 64) text.toList with
  | some n => if n ≤ Level.trace.rank then some n else none
  | none =>
    if text = "" then some Level.error.rank
    else if Text.sameFolded text "off" then some 0
    else ([Level.error, .warn, .info, .debug, .trace].find? fun level =>
      Text.sameFolded text level.name).map Level.rank

/-- Whether a character may start a directive that names an area or a level. -/
def mayStart (c : Char) : Bool := c == '-' || c == ':' || c == '_' || Text.isAlphanumeric c

def addTest? (chars : List Char) (draft : Draft) (first last : Nat) (stage : Stage) :
    Option Draft := do
  let item ← Text.slice? chars first last
  let test ← if item = "" then none else DetailTest.read? item
  return ⟨{ draft.directive with tests := draft.directive.tests ++ [test] }, stage⟩

/-- Takes a character at an offset; `chars` is the text that offsets are about. -/
def step? (chars : List Char) (draft : Draft) (item : Nat × Char) : Option Draft :=
  let (offset, c) := item
  match draft.stage, c with
  | .start, '[' => some { draft with stage := .span (offset + 1) }
  | .start, _ => if mayStart c then some { draft with stage := .levelOrArea offset } else none
  | .levelOrArea first, '=' =>
    (Text.slice? chars first offset).map fun area =>
      ⟨{ draft.directive with area := some area }, .level (offset + 1)⟩
  | .levelOrArea first, '[' =>
    (Text.slice? chars first offset).map fun area =>
      ⟨{ draft.directive with area := some area }, .span (offset + 1)⟩
  | .levelOrArea _, _ => some draft
  | .span first, ']' =>
    (Text.slice? chars first offset).map fun span =>
      ⟨{ draft.directive with span := some span }, .spanEnd⟩
  -- An empty name is no span here, but it is one where the bracket closes at once.
  | .span first, '{' =>
    (Text.slice? chars first offset).map fun span =>
      ⟨{ draft.directive with span := if span = "" then none else some span }, .test (offset + 1)⟩
  | .span _, _ => some draft
  | .test first, '}' => addTest? chars draft first offset .testsEnd
  | .test _, _ => some draft
  | .testsEnd, ']' => some { draft with stage := .spanEnd }
  | .testsEnd, _ => none
  | .spanEnd, '=' => some { draft with stage := .level (offset + 1) }
  | .spanEnd, _ => none
  | .level _, _ => some draft

def finish? (chars : List Char) (draft : Draft) : Option Directive :=
  match draft.stage with
  | .levelOrArea first => do
    let item ← Text.sliceFrom? chars first
    match rankOf? item with
    | some rank => return { draft.directive with rank }
    | none => return { draft.directive with area := some item }
  | .level first => do
    let item ← Text.sliceFrom? chars first
    if item = "" then return draft.directive
    else return { draft.directive with rank := ← rankOf? item }
  | .spanEnd => some draft.directive
  | _ => none

/-- Reads a directive. Blanks at its ends are not read, but the offsets of its parts count from the
first of them on. -/
def read? (item : String) : Option Directive := do
  let chars := item.toList
  let start : Draft := ⟨⟨none, none, [], Level.trace.rank⟩, .start⟩
  let draft ← (Text.withOffsets 0 (Text.trim item).toList).foldlM (step? chars) start
  finish? chars draft

/-- The rule about events that a directive states. No event happens in a span, and no detail is
compared with a value, so a directive that asks for one of these states none. -/
def rule? (directive : Directive) : Option FilterRule :=
  if directive.span.isNone && directive.tests.all (·.value.isNone) then
    some ⟨directive.area, directive.tests.map (·.name), directive.rank⟩
  else none

end Directive

namespace Filter

/-- Reads directives with commas in between; without any of them, errors are shown. -/
def read? (text : String) : Option Filter :=
  match ((Text.split ',' text).filter (· ≠ "")).mapM Directive.read? with
  | some [] => some [⟨none, [], Level.error.rank⟩]
  | some directives => some (directives.filterMap Directive.rule?)
  | none => none

/-- The filter for a number of requests to say more. -/
def ofVerbosity (verbosity : Nat) : Filter :=
  let level : Level := match verbosity with
    | 0 => .warn
    | 1 => .info
    | _ => .debug
  [⟨some "castui_cli", [], level.rank⟩]

/-- The filter of a run: directives that cannot be read count as none. -/
def choose (rules : Option String) (verbosity : Nat) : Filter :=
  (rules.bind read?).getD (ofVerbosity verbosity)

def decisive? (filter : Filter) (event : Event) : Option FilterRule :=
  filter.foldl (fun best rule =>
    -- Of two rules with the same place in the order the later one takes over.
    if rule.concerns event && best.all fun other => !rule.precedes other then some rule
    else best) none

def shows (filter : Filter) (event : Event) : Bool :=
  (filter.decisive? event).any fun rule => event.level.rank ≤ rule.rank

end Filter

end UiScaffold
