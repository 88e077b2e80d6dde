import UiScaffold.FileSystem.Path

/-!
Substitution templates.

A placeholder is a key between double braces, with white space around the key or not. It opens at
the first double brace after the last placeholder and ends at the first closing double brace.
Everything else is literal text, single braces included. Substituted text is not looked at again.
-/

set_option autoImplicit false
set_option relaxedAutoImplicit false

namespace UiScaffold

inductive Segment where
  | literal (text : String)
  | placeholder (key : String)
deriving DecidableEq, Repr

/-- A template whose placeholders are known keys. -/
structure Template where
  /-- Where the template was read from. -/
  path : Path
  segments : List Segment
deriving DecidableEq, Repr

/-- What can be wrong with a template. -/
inductive Template.Problem where
  | unterminated
  | unknownKey (key : String)
deriving DecidableEq, Repr

def Template.Problem.message : Template.Problem → String
  | unterminated => "unterminated placeholder"
  | unknownKey key => "unknown placeholder `" ++ key ++ "`"

/-- A problem and the line of the placeholder that has it. -/
structure Template.Fault where
  line : Nat
  problem : Template.Problem
deriving DecidableEq, Repr

/-- The values of keys; the value that was added last counts. -/
abbrev Context := List (String × String)

namespace Context

def assign (context : Context) (key value : String) : Context := (key, value) :: context

/-- The value of a key; a missing key has the empty value. -/
def get (context : Context) (key : String) : String := (context.lookup key).getD ""

end Context

def Segment.render (context : Context) : Segment → String
  | .literal text => text
  | .placeholder key => context.get key

namespace Template

/-- The text before and after the first place where a character stands twice. -/
def cut (c : Char) : List Char → Option (List Char × List Char)
  | a :: b :: rest =>
    if a = c ∧ b = c then some ([], rest)
    else (cut c (b :: rest)).map fun (before, after) => (a :: before, after)
  | _ => none

/-- What is left after the pair is shorter than the whole. -/
theorem length_lt_of_cut {c : Char} {text before after : List Char}
    (h : cut c text = some (before, after)) : after.length < text.length := by
  fun_induction cut c text generalizing before after with
  | case1 a b rest hc =>
    simp only [Option.some.injEq, Prod.mk.injEq] at h
    simp only [List.length_cons, ← h.2]
    omega
  | case2 a b rest hc ih =>
    simp only [Option.map_eq_some_iff, Prod.mk.injEq, Prod.exists] at h
    obtain ⟨x, y, hxy, -, rfl⟩ := h
    have := ih hxy
    simp only [List.length_cons] at this ⊢
    omega
  | case3 => simp at h

/-- A literal segment, unless it is empty. -/
def literals (chars : List Char) : List Segment :=
  if chars = [] then [] else [.literal (String.ofList chars)]

/-- Reads the segments of a text that starts in a line. -/
def scan (keys : List String) (line : Nat) (source : List Char) : Except Fault (List Segment) :=
  match _hOpen : cut '{' source with
  | none => .ok (literals source)
  | some (before, inside) =>
    let line := line + before.count '\n'
    match _hClose : cut '}' inside with
    | none => .error ⟨line, .unterminated⟩
    | some (raw, rest) =>
      let key := String.ofList (Text.trimChars raw)
      if key ∈ keys then
        -- Line feeds inside a placeholder count for what comes after it, not for its own line.
        match scan keys (line + raw.count '\n') rest with
        | .ok more => .ok (literals before ++ .placeholder key :: more)
        | .error fault => .error fault
      else .error ⟨line, .unknownKey key⟩
termination_by source.length
decreasing_by
  exact Nat.lt_trans (length_lt_of_cut _hClose) (length_lt_of_cut _hOpen)

/-- Reads a template; every placeholder must name one of the keys. -/
def parse (path : Path) (source : String) (keys : List String) : Except Fault Template :=
  (scan keys 1 source.toList).map fun segments => ⟨path, segments⟩

/-- The template with values in the place of its placeholders. -/
def render (template : Template) (context : Context) : String :=
  String.join (template.segments.map (Segment.render context))

end Template

end UiScaffold
