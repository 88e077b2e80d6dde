import UiScaffold.Proofs.Descriptor.Mixture
import UiScaffold.Proofs.Descriptor.RoundTrip
import UiScaffold.Proofs.Text.Lines

/-!
The two forms of documentation.

A list says the same as the text of its lines, whichever way the lines end in the text and whatever
stands between the texts of the list. What was read is a fixed point: its lines are trimmed, and as
a list they are read as they are.
-/

set_option autoImplicit false
set_option relaxedAutoImplicit false

namespace UiScaffold.Docs

/-- The texts among the items of a list, in order. -/
inductive Tells : List Json → List String → Prop
  | none : Tells [] []
  | line {line : String} {items : List Json} {lines : List String} :
      Tells items lines → Tells (.text line :: items) (line :: lines)
  | other {item : Json} {items : List Json} {lines : List String} :
      (∀ line, item ≠ .text line) → Tells items lines → Tells (item :: items) lines

private theorem Tells.ofJson {items : List Json} {lines : List String} (h : Tells items lines) :
    ofJson (.list items) = lines.map Text.trim := by
  have texts : items.filterMap Json.asText? = lines := by
    induction h with
    | none => rfl
    | line _ ih => exact congrArg (_ :: ·) ih
    | @other item _ _ silent _ ih =>
      have skipped : item.asText? = Option.none :=
        Option.eq_none_iff_forall_ne_some.mpr fun line told =>
          silent line (Json.asText?_eq_some.mp told)
      rw [List.filterMap_cons, skipped]
      exact ih
  rw [Docs.ofJson, texts]

/-- Lines are the same documentation as the texts of a list and joined to one text, if no line has a
line feed and something stands on the last one. Every line of a documentation is trimmed, and the
list of these lines is the same documentation. -/
theorem text_agrees_with_list :
    (∀ items lines, Tells items lines → (∀ line ∈ lines, '\n' ∉ line.toList) →
      lines.getLast? ≠ some "" → ∀ lineEnd ∈ Text.lineEnds,
        ofJson (.text (lineEnd.intercalate lines)) = ofJson (.list items) ∧
          ofJson (.list items) = lines.map Text.trim) ∧
    ∀ value, Trimmed (ofJson value) ∧ ofJson (.texts (ofJson value)) = ofJson value := by
  constructor
  · intro items lines tells free filled lineEnd known
    have listed := tells.ofJson
    exact ⟨(Text.trim_lines_intercalate known free filled).trans listed.symm, listed⟩
  · intro value
    have trimmed := trimmed_ofJson value
    exact ⟨trimmed, ofJson_texts trimmed⟩

/-- Lines with white space of several kinds at their ends, one of them blank, with other values
between them. -/
theorem text_agrees_with_list_of_mixed :
    let lines := ["\u00a0Moves lamports.\r", " ", "\tSigned\u2003", "\r"]
    let items : List Json := [.null, .text "\u00a0Moves lamports.\r", .text " ", .list [.text "x"],
      .text "\tSigned\u2003", .text "\r", .bool true]
    Tells items lines ∧ (∀ line ∈ lines, '\n' ∉ line.toList) ∧ lines.getLast? ≠ some "" ∧
      "\r\n" ∈ Text.lineEnds ∧
      ofJson (.text ("\r\n".intercalate lines)) = ofJson (.list items) ∧
      ofJson (.list items) = ["Moves lamports.", "", "Signed", ""] := by
  intro lines items
  have tells : Tells items lines :=
    .other nofun (.line (.line (.other nofun (.line (.line (.other nofun .none))))))
  have free : ∀ line ∈ lines, '\n' ∉ line.toList := by decide
  have filled : lines.getLast? ≠ some "" := by decide
  have known : "\r\n" ∈ Text.lineEnds := by decide
  have trimmed : lines.map Text.trim = ["Moves lamports.", "", "Signed", ""] := by decide +kernel
  obtain ⟨joined, listed⟩ := text_agrees_with_list.1 items lines tells free filled "\r\n" known
  exact ⟨tells, free, filled, known, joined, listed.trans trimmed⟩

end UiScaffold.Docs
