import UiScaffold.Shell.Word

/-!
The statements of the shell's language.

A simple command has words, assignments before them, and redirections. Statements join commands into
lists, pipelines, conditionals and loops.
-/

set_option autoImplicit false
set_option relaxedAutoImplicit false

namespace UiScaffold.Shell

/-- Where a redirection leads. -/
inductive Destination where
  | source (name : Word)
  | sink (name : Word)
  /-- A file that is emptied even if files are to be kept. -/
  | replaced (name : Word)
  | extended (name : Word)
  | bothWays (name : Word)
  /-- Where another descriptor leads; a dash closes the descriptor. -/
  | descriptor (name : Word)
  /-- A text that follows the command, by its number. -/
  | document (index : Nat)
deriving Repr

structure Redirection where
  descriptor : Nat
  destination : Destination
deriving Repr

/-- A command with its words. -/
structure SimpleCommand where
  /-- The line where the first word ends. -/
  line : Nat
  assignments : List (String × Word)
  words : List Word
  redirections : List Redirection
deriving Repr

inductive Statement where
  | nothing
  | simple (command : SimpleCommand)
  | sequence (first second : Statement)
  | both (first second : Statement)
  | either (first second : Statement)
  | negation (statement : Statement)
  | conditional (test yes no : Statement)
  /-- Repeats the body while the test gives the wanted answer. -/
  | loop (wanted : Bool) (test body : Statement)
  | each (line : Nat) (name : String) (words : List Word) (body : Statement)
  | choice (line : Nat) (subject : Word) (branches : List (List Word × Statement))
  | redirected (line : Nat) (body : Statement) (redirections : List Redirection)
  /-- Runs in a copy of the shell. -/
  | apart (line : Nat) (body : Statement) (redirections : List Redirection)
  /-- Runs in a copy of the shell that nobody waits for. -/
  | background (line : Nat) (body : Statement) (redirections : List Redirection)
  | pipeline (parts : List Statement)
  | definition (name : String) (body : Statement)
deriving Repr

end UiScaffold.Shell
