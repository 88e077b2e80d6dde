import Mathlib.Data.List.DropRight
import UiScaffold.Text.Blank

/-!
Lines that were joined to a text.

Joined with a line feed, or with a carriage return before it, lines are found again in the text, but
that each of them except the last may end in the carriage return. Trimming takes that away, as it
does with all the white space at the end of a line.
-/

set_option autoImplicit false
set_option relaxedAutoImplicit false

namespace UiScaffold.Text

variable {separator : Char} {line margin last : List Char} {front : List (List Char)}

private theorem splitChars_of_notMem (absent : separator ∉ line) :
    splitChars separator line = [line] := by
  induction line with
  | nil => rfl
  | cons c line ih =>
    rw [List.mem_cons, not_or] at absent
    rw [splitChars, if_neg (Ne.symm absent.1), ih absent.2]

theorem split_of_notMem {text : String} (absent : separator ∉ text.toList) :
    split separator text = [text] := by
  rw [split, splitChars_of_notMem absent, List.map_singleton, String.ofList_toList]

private theorem splitChars_append_cons (absent : separator ∉ line) (rest : List Char) :
    splitChars separator (line ++ separator :: rest) = line :: splitChars separator rest := by
  induction line with
  | nil => rw [List.nil_append, splitChars, if_pos rfl]
  | cons c line ih =>
    rw [List.mem_cons, not_or] at absent
    rw [List.cons_append, splitChars, if_neg (Ne.symm absent.1), ih absent.2]

private theorem splitChars_intercalate (plain : separator ∉ margin)
    (free : ∀ line ∈ front ++ [last], separator ∉ line) :
    splitChars separator ((margin ++ [separator]).intercalate (front ++ [last])) =
      front.map (· ++ margin) ++ [last] := by
  induction front with
  | nil =>
    have absent : separator ∉ last := free last (by simp)
    rw [List.nil_append, List.intercalate_singleton, splitChars_of_notMem absent]
    rfl
  | cons line front ih =>
    have absent : separator ∉ line ++ margin := by
      rw [List.mem_append, not_or]
      exact ⟨free line (by simp), plain⟩
    have others := ih fun other member => free other (List.mem_cons_of_mem line member)
    have filled : front ++ [last] ≠ [] := by simp
    calc
      splitChars separator ((margin ++ [separator]).intercalate (line :: front ++ [last])) =
          splitChars separator (line ++ margin ++
            separator :: (margin ++ [separator]).intercalate (front ++ [last])) := by
        rw [List.cons_append, List.intercalate_cons_of_ne_nil filled]
        simp
      _ = (line ++ margin) :: (front.map (· ++ margin) ++ [last]) := by
        rw [splitChars_append_cons absent, others]

private theorem linesOf_append_singleton (filled : last ≠ []) :
    linesOf (front ++ [last]) = front.map dropReturn ++ [last] := by
  induction front with
  | nil =>
    cases last with
    | nil => exact absurd rfl filled
    | cons c rest => rfl
  | cons piece front ih =>
    cases rest : front ++ [last] with
    | nil => simp at rest
    | cons next more =>
      rw [rest] at ih
      rw [List.cons_append, rest, linesOf, ih, List.map_cons, List.cons_append]
      · nofun
      · nofun

private theorem trimChars_append (blank : ∀ c ∈ margin, isBlank c = true) :
    trimChars (line ++ margin) = trimChars line := by
  have idle (chars : List Char) : trimEnd (chars ++ margin) = trimEnd chars := by
    have skipped : ∀ c ∈ margin.reverse, isBlank c = true := fun c member =>
      blank c (List.mem_reverse.mp member)
    rw [trimEnd, trimEnd, List.reverse_append, List.dropWhile_append_of_pos skipped]
  rw [trimChars, trimChars, List.dropWhile_append]
  cases start : line.dropWhile isBlank with
  | nil =>
    have gone : margin.dropWhile isBlank = [] := List.dropWhile_eq_nil_iff.mpr blank
    rw [gone]
    rfl
  | cons c rest => exact idle (c :: rest)

private theorem trimChars_dropReturn (line : List Char) :
    trimChars (dropReturn line) = trimChars line := by
  unfold dropReturn
  split
  · rename_i rest ended
    have whole : line = rest.reverse ++ ['\r'] := by
      rw [← List.reverse_cons, ← ended, List.reverse_reverse]
    have blank : ∀ c ∈ ['\r'], isBlank c = true := List.forall_mem_singleton.mpr rfl
    rw [whole, trimChars_append blank]
  · rfl

def lineEnds : List String := ["\n", "\r\n"]

/-- Lines without line feeds that were joined are trimmed as they are, if something stands on the
last one. -/
theorem trim_lines_intercalate {lines : List String} {lineEnd : String} (known : lineEnd ∈ lineEnds)
    (free : ∀ line ∈ lines, '\n' ∉ line.toList) (filled : lines.getLast? ≠ some "") :
    (Text.lines (lineEnd.intercalate lines)).map trim = lines.map trim := by
  rcases List.eq_nil_or_concat' lines with rfl | ⟨front, last, rfl⟩
  · rfl
  obtain ⟨margin, ends, plain, blank⟩ : ∃ margin : List Char, lineEnd.toList = margin ++ ['\n'] ∧
      '\n' ∉ margin ∧ ∀ c ∈ margin, isBlank c = true := by
    simp only [lineEnds, List.mem_cons, List.not_mem_nil, or_false] at known
    rcases known with rfl | rfl
    · exact ⟨[], rfl, List.not_mem_nil, List.forall_mem_nil _⟩
    · exact ⟨['\r'], rfl, by decide, List.forall_mem_singleton.mpr rfl⟩
  have chars : (lineEnd.intercalate (front ++ [last])).toList =
      (margin ++ ['\n']).intercalate (front.map String.toList ++ [last.toList]) := by
    rw [String.toList_intercalate, ends, List.map_append, List.map_singleton]
  have free' : ∀ line ∈ front.map String.toList ++ [last.toList], '\n' ∉ line := by
    intro line member
    rcases List.mem_append.mp member with inside | final
    · obtain ⟨text, there, rfl⟩ := List.mem_map.mp inside
      exact free text (List.mem_append_left [last] there)
    · obtain rfl := List.mem_singleton.mp final
      exact free last (by simp)
  have some_last : last.toList ≠ [] := by simpa using filled
  have pieces := splitChars_intercalate plain free'
  have settled (line : List Char) :
      trim (String.ofList (dropReturn line)) = trim (String.ofList line) := by
    rw [trim, trim, String.toList_ofList, String.toList_ofList, trimChars_dropReturn]
  have margined (line : String) : trim (line ++ String.ofList margin) = trim line := by
    rw [trim, trim, String.toList_append, String.toList_ofList, trimChars_append blank]
  rw [lines, chars, pieces, linesOf_append_singleton some_last]
  simp [settled, margined]

end UiScaffold.Text
