import UiScaffold.CommandLine.Help
import UiScaffold.FileSystem.Path

/-!
Reading a command line.

A switch is given by its name after two hyphens, with a value behind an equals sign or in the next
argument, or by its letter after one hyphen, with other letters or a value right behind it. After a
lone pair of hyphens no argument is a switch any more. A value in an argument of its own is looked
at only when the next switch comes or the command line ends; an argument that is no switch is
refused before that.
-/

set_option autoImplicit false
set_option relaxedAutoImplicit false

namespace UiScaffold

/-- What a command line asks for. -/
structure Invocation where
  descriptor : Path
  output : Path
  template : String
  network : Network
  programId : Option String
  skipInstall : Bool
  manager : String
deriving DecidableEq, Repr

inductive Task where
  | listTemplates
  | generate (invocation : Invocation)
deriving DecidableEq, Repr

/-- A command line that is understood. -/
inductive Request where
  /-- Show help, at full length or in short. -/
  | help (full : Bool)
  | version
  | work (task : Task) (templates : Option Path) (verbosity : Nat)
deriving DecidableEq, Repr

/-- Why reading ends before the command line does. -/
inductive Interruption where
  | refused (error : UsageError)
  | answered (request : Request)
deriving DecidableEq, Repr

/-- Switches with their values, in the order in which they were given. -/
abbrev Given := List (Switch × String)

namespace Given

def value? (given : Given) (switch : Switch) : Option String := given.lookup switch

def chosen (given : Given) (switch : Switch) : String :=
  (given.value? switch).getD (switch.default?.getD "")

def has (given : Given) (switch : Switch) : Bool := (given.value? switch).isSome

/-- The switches, each of them once. -/
def switches (given : Given) : List Switch := (given.map (·.1)).eraseDups

def count (given : Given) (switch : Switch) : Nat := (given.filter (·.1 = switch)).length

def valueFault? (switch : Switch) (value : String) : Option UsageError :=
  if value = "" ∧ (switch.isPath = true ∨ switch.choices ≠ []) then some (.missingValue switch)
  else if switch.choices ≠ [] ∧ value ∉ switch.choices then some (.invalidValue switch value)
  else none

/-- Adds a switch with its value. The result tells what is wrong with it, beside the switches that
count as given from then on. -/
def add (given : Given) (switch : Switch) (value : String) : Option UsageError × Given :=
  if given.has switch && !switch.isRepeatable then
    (some (.repeated switch), given.filter (·.1 ≠ switch))
  else (valueFault? switch value, given ++ [(switch, value)])

end Given

/-- How far a command line is read. -/
structure Progress where
  given : Given
  /-- The switch whose value is next, or was last. -/
  pending : Option (Switch × Option String)

namespace Progress

/-- Adds the pending switch, as far as it can be added. -/
def attempt (progress : Progress) : Option UsageError × Given :=
  match progress.pending with
  | none => (none, progress.given)
  | some (switch, none) => (some (.missingValue switch), progress.given)
  | some (switch, some value) => progress.given.add switch value

/-- Adds the pending switch. -/
def settle (progress : Progress) : Except UsageError Given :=
  match progress.attempt with
  | (none, given) => .ok given
  | (some error, _) => .error error

/-- Adds a switch with a value that stands right behind it, after the pending one. -/
def accept (progress : Progress) (switch : Switch) (value : String) :
    Except UsageError Progress := do
  match (← progress.settle).add switch value with
  | (none, given) => return ⟨given, none⟩
  | (some error, _) => throw error

/-- Waits for the value of a switch, after the pending one. -/
def await (progress : Progress) (switch : Switch) : Except UsageError Progress := do
  return ⟨← progress.settle, some (switch, none)⟩

/-- Turns on a switch that takes no value. Help and the version end the reading. -/
def turnOn (progress : Progress) (switch : Switch) (byName : Bool) :
    Except Interruption Progress := do
  match switch with
  | .help =>
    let _ ← progress.settle.mapError .refused
    throw (.answered (.help byName))
  | .version =>
    let _ ← progress.settle.mapError .refused
    throw (.answered .version)
  | _ => (progress.accept switch "").mapError .refused

/-- Reads a switch by its name, with a value behind an equals sign or without. -/
def readName (progress : Progress) (text : List Char) : Except Interruption Progress :=
  let name := String.ofList (text.takeWhile (· ≠ '='))
  let attached : Option String := match text.dropWhile (· ≠ '=') with
    | _ :: value => some (String.ofList value)
    | [] => none
  match Switch.ofName? name with
  | none =>
    -- The hint lists the switches that count so far, and with them the one that was meant.
    let meant := (Text.meant? name (Switch.all.map Switch.name)).bind Switch.ofName?
    let used := (Given.switches progress.attempt.2 ++ meant.toList).eraseDups
    .error (.refused (.unexpected ("--" ++ name) meant (.ofSwitches used)))
  | some switch =>
    match switch.takesValue, attached with
    | true, some value => (progress.accept switch value).mapError .refused
    | true, none => (progress.await switch).mapError .refused
    | false, none => progress.turnOn switch true
    | false, some value =>
      let hint := if progress.given = [] then UsageHint.switches [switch] else .choice [switch]
      .error (.refused (.excessValue switch value hint))

/-- Reads switches by their letters; the first one with a value takes what is left. -/
def readLetters (progress : Progress) : List Char → Except Interruption Progress
  | [] => .ok progress
  | c :: rest =>
    match Switch.ofLetter? c with
    | none => .error (.refused (.unexpected (String.ofList ['-', c]) none .any))
    | some switch =>
      if switch.takesValue then
        match rest with
        | [] => (progress.await switch).mapError .refused
        | '=' :: value => (progress.accept switch (String.ofList value)).mapError .refused
        | value => (progress.accept switch (String.ofList value)).mapError .refused
      else do
        let progress ← progress.turnOn switch false
        readLetters progress rest

/-- Reads an argument that is no switch: the value that is waited for, or nothing that is known. -/
def readPlain (progress : Progress) (argument : String) : Except Interruption Progress :=
  match progress.pending with
  | some (switch, none) => .ok ⟨progress.given, some (switch, some argument)⟩
  | _ => .error (.refused (.unexpected argument none .any))

def readAll (progress : Progress) : List String → Except Interruption Progress
  | [] => .ok progress
  | argument :: rest =>
    match argument.toList with
    -- Two hyphens alone end the switches, and no argument is known that could follow.
    | ['-', '-'] =>
      match rest with
      | [] => .ok progress
      | next :: _ => .error (.refused (.unexpected next none .any))
    | '-' :: '-' :: name => do
      let progress ← progress.readName name
      readAll progress rest
    | '-' :: c :: letters => do
      let progress ← progress.readLetters (c :: letters)
      readAll progress rest
    | _ => do
      let progress ← progress.readPlain argument
      readAll progress rest

end Progress

namespace Request

/-- The switches of a command line, completed from the environment. -/
def complete (given : Given) (environment : List (String × String)) : Except UsageError Given :=
  let directory := Switch.templates.environmentName?.bind fun name => environment.lookup name
  match given.has .templates, directory with
  | false, some directory =>
    match given.add .templates directory with
    | (none, given) => .ok given
    | (some error, _) => .error error
  | _, _ => .ok given

def ofGiven (given : Given) : Except UsageError Request :=
  let templates := (given.value? .templates).map Path.ofText
  let verbosity := given.count .verbose
  if given.has .listTemplates then .ok (.work .listTemplates templates verbosity)
  else match given.value? .descriptor with
    | none => .error (.missingDescriptor given.switches)
    | some descriptor =>
      let invocation : Invocation := {
        descriptor := .ofText descriptor
        output := .ofText (given.chosen .output)
        template := given.chosen .template
        network := (Network.ofName? (given.chosen .network) false).getD default
        programId := given.value? .programId
        skipInstall := given.has .skipInstall
        manager := given.chosen .manager }
      .ok (.work (.generate invocation) templates verbosity)

def read (arguments : List String) (environment : List (String × String)) :
    Except UsageError Request :=
  match Progress.readAll ⟨[], none⟩ arguments with
  | .error (.answered request) => .ok request
  | .error (.refused error) => .error error
  | .ok progress => do
    let given ← complete (← progress.settle) environment
    ofGiven given

end Request

end UiScaffold
