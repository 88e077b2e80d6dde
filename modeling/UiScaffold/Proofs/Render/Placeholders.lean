import UiScaffold.Proofs.Json.Grammar
import UiScaffold.Proofs.Json.Printing
import UiScaffold.Proofs.Render.Output
import UiScaffold.Proofs.Render.Substitution

/-!
What stands in the place of placeholders.

Every key that a template may use has a content: a text, or the form of the page. In the place of a
placeholder stands the content of its key as one complete value, so that what was substituted ends
where its value ends, whatever the content is.
-/

set_option autoImplicit false
set_option relaxedAutoImplicit false

namespace UiScaffold

/-- A value is a literal of a text: between its quotes every quote and every backslash belongs to an
escape, no character below U+0020 stands there, and it is read as the text. -/
structure Json.IsLiteralOf (text value : String) : Prop where
  spelled : ∃ body, value.toList = '\"' :: (body ++ ['\"']) ∧ Contents body text.toList ∧
    ∀ c ∈ body, 0x20 ≤ c.toNat
  read : Json.read value = .ok (.text text)

inductive Content where
  | text (text : String)
  | form (form : Form)

namespace Content

def write : Content → String
  | .text content => Json.quote content
  | .form content => content.write

/-- A value is complete: a literal of the text, or an object for the form. -/
def Complete : Content → String → Prop
  | .text content, value => Json.IsLiteralOf content value
  | .form _, value => Json.IsObject value.toList

def ofShell (source : RenderSource) (options : RenderOptions) : String → Option Content
  | "programId" => some (.text (options.idFor source))
  | "programName" => some (.text source.programName)
  | "network" => some (.text options.network.name)
  | "rpcEndpoint" => some (.text options.network.endpoint)
  | _ => none

def ofPage (source : RenderSource) (options : RenderOptions) (form : Form) : String → Option Content
  | "instructionName" => some (.text form.name)
  | "instructionTitle" => some (.text (Text.title form.name))
  | "instruction" => some (.form form)
  | key => ofShell source options key

end Content

/-- How the file of a template is cut at its placeholders, all of which have known keys. -/
structure TemplateSet.IsCut (fs : FileSystem) (file : Path) (keys : List String)
    (cutting : Cutting) : Prop where
  source : ∃ text, fs.readText file = .ok text ∧ Cuts text.toList cutting
  known : ∀ hole ∈ cutting.holes, Cutting.key hole.2 ∈ keys

/-- A rendered text is the literal text of a cutting with, in the place of every placeholder, the
content of its key as a complete value that is not empty. The context has that value, so that no
default takes its place. -/
structure Cutting.Holds (cutting : Cutting) (content : String → Option Content) (context : Context)
    (rendered : String) : Prop where
  filled : rendered.toList = cutting.fill fun inside => (context.get (key inside)).toList
  values : ∀ hole ∈ cutting.holes, ∃ held, content (key hole.2) = some held ∧
    context.lookup (key hole.2) = some held.write ∧ held.Complete held.write ∧ held.write ≠ ""

/-- Two texts are the same but for what stands in the place of some placeholders. -/
def Cutting.DifferWithin (cutting : Cutting) (spans : String → Prop) (text text' : String) : Prop :=
  ∃ value value', text.toList = cutting.fill value ∧ text'.toList = cutting.fill value' ∧
    ∀ hole ∈ cutting.holes, ¬ spans (key hole.2) → value hole.2 = value' hole.2

namespace Json

private theorem isLiteralOf_quote (text : String) : IsLiteralOf text (quote text) := by
  have stands := Contents.escaped text.toList
  refine ⟨⟨_, ?_, stands, stands.visible⟩, ?_⟩
  · rw [quote, String.toList_ofList, quoteChars]
  · have read : readChars nestingLimit (prettyChars 0 (.text text)) = .ok (.text text) :=
      readChars_pretty trivial (Nat.zero_le _)
    rw [prettyChars] at read
    rw [Json.read, readVerbatim, quote, String.toList_ofList, read]
    rfl

end Json

private theorem Form.isObject_write (form : Form) : Json.IsObject form.write.toList := by
  rw [write, Json.pretty, String.toList_ofList]
  exact Json.isObject_prettyChars 0 _

namespace Content

theorem complete_write (content : Content) : content.Complete content.write := by
  cases content with
  | text text => exact Json.isLiteralOf_quote text
  | form form => exact form.isObject_write

theorem write_ne_empty (content : Content) : content.write ≠ "" := by
  intro empty
  have complete := content.complete_write
  rw [empty] at complete
  cases content with
  | text text =>
    obtain ⟨body, spelled, -⟩ := complete.spelled
    cases spelled
  | form form => cases complete

variable {source source' : RenderSource} {options options' : RenderOptions} {form form' : Form}
  {key : String}

/-- Every key of the app shell has a content, and the context its value. -/
theorem lookup_context (known : key ∈ TemplateSet.shellKeys) : ∃ held,
    ofShell source options key = some held ∧
      (options.context source).lookup key = some held.write := by
  simp only [TemplateSet.shellKeys, List.mem_cons, List.not_mem_nil, or_false] at known
  rcases known with rfl | rfl | rfl | rfl <;> exact ⟨_, rfl, rfl⟩

theorem lookup_withForm (known : key ∈ TemplateSet.pageKeys) : ∃ held,
    ofPage source options form key = some held ∧
      ((options.context source).withForm form).lookup key = some held.write := by
  simp only [TemplateSet.pageKeys, TemplateSet.shellKeys, List.cons_append, List.nil_append,
    List.mem_cons, List.not_mem_nil, or_false] at known
  rcases known with rfl | rfl | rfl | rfl | rfl | rfl | rfl <;> exact ⟨_, rfl, rfl⟩

end Content

namespace TemplateSet

variable {fs : FileSystem} {directory file : Path} {name : String} {keys : List String}
  {template : Template}

/-- A template that was loaded renders to the cutting of its file, filled with the values of a
context. -/
theorem cutting_of_loadFile (h : loadFile fs directory name file keys = .ok template) :
    ∃ cutting, IsCut fs (directory.join file) keys cutting ∧ ∀ context,
      (template.render context).toList =
        cutting.fill fun inside => (context.get (Cutting.key inside)).toList := by
  unfold loadFile at h
  simp only at h
  split at h
  · cases h
  split at h
  · cases h
  next text read =>
    split at h
    · next parsed =>
      cases h
      obtain ⟨cutting, cuts, known, rfl⟩ := Template.parse_eq_ok.mp parsed
      exact ⟨cutting, ⟨⟨text, read, cuts⟩, known⟩, Template.render_segmentsOf _ cutting⟩
    · cases h

end TemplateSet

namespace Cutting

variable {cutting : Cutting} {content content' : String → Option Content}
  {context context' : Context} {rendered rendered' : String}

/-- Two texts that one cutting holds differ only where the contents do. -/
theorem Holds.differWithin (h : cutting.Holds content context rendered)
    (h' : cutting.Holds content' context' rendered') :
    cutting.DifferWithin (fun key => content key ≠ content' key) rendered rendered' := by
  refine ⟨_, _, h.filled, h'.filled, fun hole member same => ?_⟩
  obtain ⟨held, holds, value, -⟩ := h.values hole member
  obtain ⟨held', holds', value', -⟩ := h'.values hole member
  rw [not_not, holds, holds'] at same
  cases same
  simp only [Context.get, value, value']

end Cutting

end UiScaffold
