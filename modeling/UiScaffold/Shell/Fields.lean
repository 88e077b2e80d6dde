import UiScaffold.Shell.Pattern

/-!
From a filled-in word to words.

What an unquoted parameter stands for is cut at separators. Blanks among the separators run together
and count for nothing at both ends; every other separator ends a word, even an empty one. Where
quotes stood there is a word even if nothing stands between them.
-/

set_option autoImplicit false
set_option relaxedAutoImplicit false

namespace UiScaffold.Shell

/-- A part of a word that was filled in. -/
inductive Grain where
  /-- A character; a loose one can separate words. -/
  | char (c : Char) (quoted loose : Bool)
  | quotes
  /-- Separates arguments as a blank does. -/
  | gap
  /-- Separates arguments, even empty ones. -/
  | cut
deriving DecidableEq, Repr

namespace Grain

def ofText (text : String) (quoted loose : Bool) : List Grain :=
  text.toList.map (char · quoted loose)

/-- The grain as a part of a pattern, if it is a character. -/
def mark? : Grain → Option Mark
  | char c quoted _ => some ⟨c, quoted⟩
  | _ => none

def pattern (grains : List Grain) : Pattern := grains.filterMap mark?

def text (grains : List Grain) : String := (pattern grains).text

end Grain

/-- What a separator does. -/
inductive Separation where
  | none
  | blank
  | ending
deriving DecidableEq, Repr

/-- What a grain does under given separators. -/
def Grain.separation (separators : List Char) : Grain → Separation
  | char c _ true =>
    if separators.contains c then
      if c = ' ' ∨ c = '\t' ∨ c = '\n' then .blank else .ending
    else .none
  | gap => .blank
  | _ => .none

/-- The words that are cut off so far, the last one first; the word that is open, in reverse; and
whether a blank has just ended a word, so that one more separator ends none. -/
structure Cutting where
  done : List Pattern
  current : Option Pattern
  afterBlank : Bool

namespace Cutting

/-- Ends the open word, or one that is empty. -/
def close (cutting : Cutting) (afterBlank : Bool) : Cutting :=
  ⟨(cutting.current.getD []).reverse :: cutting.done, none, afterBlank⟩

def add (separators : List Char) (cutting : Cutting) (grain : Grain) : Cutting :=
  match grain.separation separators, grain with
  | .blank, _ => if cutting.current.isSome then cutting.close true else cutting
  | .ending, _ =>
    if cutting.afterBlank && cutting.current.isNone then { cutting with afterBlank := false }
    else cutting.close false
  | .none, .cut => cutting.close false
  | .none, grain =>
    { cutting with current := some (grain.mark?.toList ++ cutting.current.getD []),
                   afterBlank := false }

def words (cutting : Cutting) : List Pattern :=
  (if cutting.current.isSome then cutting.close false else cutting).done.reverse

end Cutting

def cutGrains (separators : List Char) (grains : List Grain) : List Pattern :=
  (grains.foldl (Cutting.add separators) ⟨[], none, false⟩).words

end UiScaffold.Shell
