import Mathlib.Data.List.Infix
import Mathlib.Tactic.Common
import UiScaffold.Template

/-!
The grammar of templates and what a template is rendered to.

A text is cut at its placeholders in one way: each opens at the first pair of opening braces after
the one before it, and closes at the first pair of closing braces after that. A template is a text
whose placeholders hold known keys, and rendering it puts values in the place of its placeholders.
-/

set_option autoImplicit false
set_option relaxedAutoImplicit false

namespace UiScaffold

/-- A mark stands in a text between two parts, and nowhere further to the front. -/
structure FirstMark (mark text before after : List Char) : Prop where
  place : text = before ++ mark ++ after
  first : ∀ front back, text = front ++ mark ++ back → before.length ≤ front.length

/-- A text in pieces: the literal text before each placeholder with the text between its braces, and
the literal text after the last placeholder. -/
structure Cutting where
  holes : List (List Char × List Char)
  last : List Char

namespace Cutting

def opening : List Char := ['{', '{']
def closing : List Char := ['}', '}']

def fill (cutting : Cutting) (value : List Char → List Char) : List Char :=
  (cutting.holes.flatMap fun hole => hole.1 ++ value hole.2) ++ cutting.last

def text (cutting : Cutting) : List Char :=
  cutting.fill fun inside => opening ++ inside ++ closing

def key (inside : List Char) : String := String.ofList (Text.trimChars inside)

end Cutting

open Cutting (opening closing key)

/-- How a text is cut at its placeholders. -/
inductive Cuts : List Char → Cutting → Prop
  | plain {text : List Char} : ¬ opening <:+: text → Cuts text ⟨[], text⟩
  | placeholder {text literal after inside rest last : List Char}
      {holes : List (List Char × List Char)} :
      FirstMark opening text literal after → FirstMark closing after inside rest →
      Cuts rest ⟨holes, last⟩ → Cuts text ⟨(literal, inside) :: holes, last⟩

namespace FirstMark

variable {mark text before after before' after' : List Char}

theorem isInfix (h : FirstMark mark text before after) : mark <:+: text :=
  ⟨before, after, h.place.symm⟩

theorem unique (h : FirstMark mark text before after) (h' : FirstMark mark text before' after') :
    before = before' ∧ after = after' := by
  have same_length : before.length = before'.length :=
    Nat.le_antisymm (h.first _ _ h'.place) (h'.first _ _ h.place)
  have same : before ++ mark ++ after = before' ++ mark ++ after' := h.place.symm.trans h'.place
  have fronts : (before ++ mark).length = (before' ++ mark).length := by simp [same_length]
  obtain ⟨front, back⟩ := List.append_inj same fronts
  exact ⟨List.append_cancel_right front, back⟩

end FirstMark

namespace Cuts

variable {source : List Char} {cutting cutting' : Cutting}

private theorem text_eq (h : Cuts source cutting) : source = cutting.text := by
  induction h with
  | plain _ => rfl
  | placeholder opens closes _ ih =>
    rw [opens.place, closes.place, ih]
    simp [Cutting.text, Cutting.fill]

private theorem unique (h : Cuts source cutting) (h' : Cuts source cutting') :
    cutting = cutting' := by
  induction h generalizing cutting' with
  | plain none =>
    cases h' with
    | plain _ => rfl
    | placeholder opens _ _ => exact absurd opens.isInfix none
  | placeholder opens closes _ ih =>
    cases h' with
    | plain none => exact absurd opens.isInfix none
    | placeholder opens' closes' more =>
      obtain ⟨rfl, rfl⟩ := opens.unique opens'
      obtain ⟨rfl, rfl⟩ := closes.unique closes'
      cases ih more
      rfl

end Cuts

namespace Template

variable {c : Char} {text before after : List Char}

private theorem firstMark_cons {a : Char} (other : ¬ [c, c] <+: a :: text)
    (h : FirstMark [c, c] text before after) :
    FirstMark [c, c] (a :: text) (a :: before) after := by
  refine ⟨by simp [h.place], ?_⟩
  intro front back place
  cases front with
  | nil => exact absurd ⟨back, place.symm⟩ other
  | cons b front =>
    obtain ⟨-, place⟩ := List.cons.inj place
    exact Nat.succ_le_succ (h.first front back place)

theorem cut_eq_some (h : cut c text = some (before, after)) :
    FirstMark [c, c] text before after := by
  fun_induction cut c text generalizing before after with
  | case1 a b rest hc =>
    obtain ⟨rfl, rfl⟩ := hc
    cases h
    exact ⟨rfl, fun _ _ _ => Nat.zero_le _⟩
  | case2 a b rest hc ih =>
    simp only [Option.map_eq_some_iff, Prod.mk.injEq, Prod.exists] at h
    obtain ⟨before, _, found, rfl, rfl⟩ := h
    refine firstMark_cons ?_ (ih found)
    rintro ⟨back, place⟩
    simp only [List.cons_append, List.nil_append, List.cons.injEq] at place
    exact hc ⟨place.1.symm, place.2.1.symm⟩
  | case3 => cases h

theorem cut_eq_none (h : cut c text = none) : ¬ [c, c] <:+: text := by
  fun_induction cut c text with
  | case1 => cases h
  | case2 a b rest hc ih =>
    have later := ih (Option.map_eq_none_iff.mp h)
    rw [List.infix_cons_iff]
    rintro (⟨back, place⟩ | inside)
    · simp only [List.cons_append, List.nil_append, List.cons.injEq] at place
      exact hc ⟨place.1.symm, place.2.1.symm⟩
    · exact later inside
  | case3 text short =>
    rintro ⟨front, back, place⟩
    have long : 2 ≤ text.length := by
      rw [← place]
      simp only [List.length_append, List.length_cons, List.length_nil]
      omega
    rcases text with _ | ⟨a, _ | ⟨b, rest⟩⟩
    · cases long
    · simp only [List.length_cons, List.length_nil] at long
      omega
    · exact short a b rest rfl

theorem cut_of_firstMark (h : FirstMark [c, c] text before after) :
    cut c text = some (before, after) := by
  cases found : cut c text with
  | none => exact absurd h.isInfix (cut_eq_none found)
  | some parts =>
    obtain ⟨before', after'⟩ := parts
    obtain ⟨rfl, rfl⟩ := h.unique (cut_eq_some found)
    rfl

theorem cut_of_absent (h : ¬ [c, c] <:+: text) : cut c text = none := by
  cases found : cut c text with
  | none => rfl
  | some parts => exact absurd (cut_eq_some found).isInfix h

def segmentsOf (cutting : Cutting) : List Segment :=
  (cutting.holes.flatMap fun hole => literals hole.1 ++ [.placeholder (key hole.2)]) ++
    literals cutting.last

variable {keys : List String} {line : Nat} {source : List Char} {segments : List Segment}
  {cutting : Cutting}

private theorem cuts_of_scan (h : scan keys line source = .ok segments) :
    ∃ cutting, Cuts source cutting ∧ (∀ hole ∈ cutting.holes, key hole.2 ∈ keys) ∧
      segments = segmentsOf cutting := by
  fun_induction scan keys line source generalizing segments with
  | case1 line source none =>
    cases h
    exact ⟨⟨[], source⟩, .plain (cut_eq_none none), by simp, rfl⟩
  | case2 => cases h
  | case3 line source literal after opens _ inside rest closes name known more scanned =>
    rename_i ih
    cases h
    obtain ⟨cutting, cuts, all_known, rfl⟩ := ih scanned
    refine ⟨⟨(literal, inside) :: cutting.holes, cutting.last⟩, ?_, ?_, ?_⟩
    · exact .placeholder (cut_eq_some opens) (cut_eq_some closes) cuts
    · intro hole member
      rcases List.mem_cons.mp member with rfl | member
      · exact known
      · exact all_known hole member
    · simp [segmentsOf, key, name]
  | case4 => cases h
  | case5 => cases h

private theorem scan_plain (none : cut '{' source = none) :
    scan keys line source = .ok (literals source) := by
  rw [scan]
  split
  · rfl
  · next found =>
    rw [none] at found
    cases found

theorem scan_placeholder {literal inside rest : List Char} (line : Nat)
    (opens : cut '{' source = some (literal, after)) (closes : cut '}' after = some (inside, rest))
    (known : key inside ∈ keys) :
    scan keys line source =
      (scan keys (line + literal.count '\n' + inside.count '\n') rest).map fun more =>
        literals literal ++ .placeholder (key inside) :: more := by
  rw [scan]
  split
  · next found =>
    rw [opens] at found
    cases found
  · next found =>
    rw [opens] at found
    cases found
    split
    · next found =>
      rw [closes] at found
      cases found
    · next found =>
      rw [closes] at found
      cases found
      simp only [show String.ofList (Text.trimChars inside) ∈ keys from known, if_true, key]
      cases scan keys _ rest <;> rfl

/-- A text that is cut at placeholders with known keys is scanned to the segments of its pieces. -/
theorem scan_of_cuts (cuts : Cuts source cutting)
    (known : ∀ hole ∈ cutting.holes, key hole.2 ∈ keys) :
    scan keys line source = .ok (segmentsOf cutting) := by
  induction cuts generalizing line with
  | plain none => exact scan_plain (cut_of_absent none)
  | @placeholder text literal after inside rest last holes opens closes _ ih =>
    have known_first : key inside ∈ keys := known (literal, inside) List.mem_cons_self
    have known_more : ∀ hole ∈ holes, key hole.2 ∈ keys :=
      fun hole member => known hole (List.mem_cons_of_mem _ member)
    rw [scan_placeholder line (cut_of_firstMark opens) (cut_of_firstMark closes) known_first,
      ih known_more]
    simp [Except.map, segmentsOf]

theorem parse_eq_ok {path : Path} {source : String} {template : Template} :
    parse path source keys = .ok template ↔
      ∃ cutting, Cuts source.toList cutting ∧ (∀ hole ∈ cutting.holes, key hole.2 ∈ keys) ∧
        template = ⟨path, segmentsOf cutting⟩ := by
  unfold parse
  constructor
  · intro parsed
    cases scanned : scan keys 1 source.toList with
    | error fault => simp [scanned, Except.map] at parsed
    | ok segments =>
      obtain ⟨cutting, cuts, known, rfl⟩ := cuts_of_scan scanned
      rw [scanned] at parsed
      exact ⟨cutting, cuts, known, (Except.ok.inj parsed).symm⟩
  · rintro ⟨cutting, cuts, known, rfl⟩
    rw [scan_of_cuts cuts known]
    rfl

private theorem render_literals (context : Context) (chars : List Char) :
    (literals chars).flatMap (fun segment => (segment.render context).toList) = chars := by
  unfold literals
  split
  · next empty => simp [empty]
  · simp [Segment.render]

/-- Rendering puts the value of its key in the place of every placeholder. -/
theorem render_segmentsOf (path : Path) (cutting : Cutting) (context : Context) :
    (render ⟨path, segmentsOf cutting⟩ context).toList =
      cutting.fill fun inside => (context.get (key inside)).toList := by
  obtain ⟨holes, last⟩ := cutting
  simp only [render, String.toList_join, List.flatMap_map, segmentsOf, Cutting.fill,
    List.flatMap_append, render_literals, List.append_cancel_right_eq]
  induction holes with
  | nil => rfl
  | cons hole holes ih =>
    rw [List.flatMap_cons, List.flatMap_append, List.flatMap_append, render_literals, ih]
    simp [Segment.render]

private theorem Cutting.fill_congr {cutting : Cutting} {value value' : List Char → List Char}
    (same : ∀ hole ∈ cutting.holes, value hole.2 = value' hole.2) :
    cutting.fill value = cutting.fill value' := by
  have pieces : cutting.holes.map (fun hole => hole.1 ++ value hole.2) =
      cutting.holes.map fun hole => hole.1 ++ value' hole.2 := by
    refine List.map_congr_left fun hole member => ?_
    rw [same hole member]
  rw [Cutting.fill, Cutting.fill, List.flatMap_def, List.flatMap_def, pieces]

/-- The template language: a text is accepted exactly when it can be cut at placeholders with known
keys, and rendering it puts the value of its key in the place of each. Each opening is the leftmost
after the placeholder before it, and each placeholder ends where the braces are closed first, so the
text is cut in one way only. Values are never read as templates again. -/
theorem parse_accepts_cuttings (path : Path) (source : String) (keys : List String) :
    ((∃ template, parse path source keys = .ok template) ↔
      ∃ cutting : Cutting, source.toList = cutting.text ∧ Cuts source.toList cutting ∧
        ∀ hole ∈ cutting.holes, key hole.2 ∈ keys) ∧
    (∀ cutting cutting', Cuts source.toList cutting → Cuts source.toList cutting' →
      cutting = cutting') ∧
    (∀ template cutting context, parse path source keys = .ok template →
      Cuts source.toList cutting →
      (template.render context).toList =
        cutting.fill fun inside => ((context.lookup (key inside)).getD "").toList) ∧
    (∀ template cutting context, parse path source keys = .ok template →
      Cuts source.toList cutting →
      (∀ hole ∈ cutting.holes, Text.trimChars hole.2 = hole.2) →
      (∀ name ∈ keys, context.get name = String.ofList (opening ++ name.toList ++ closing)) →
      template.render context = source) ∧
    (¬ opening <:+: source.toList →
      ∃ template, parse path source keys = .ok template ∧
        ∀ context, template.render context = source) := by
  have rendered : ∀ template cutting context, parse path source keys = .ok template →
      Cuts source.toList cutting →
      (∀ hole ∈ cutting.holes, key hole.2 ∈ keys) ∧ (template.render context).toList =
        cutting.fill fun inside => (context.get (key inside)).toList := by
    intro template cutting context parsed cuts
    obtain ⟨cutting', cuts', known, rfl⟩ := parse_eq_ok.mp parsed
    obtain rfl := cuts.unique cuts'
    exact ⟨known, render_segmentsOf path cutting context⟩
  refine ⟨⟨?_, ?_⟩, fun _ _ => Cuts.unique, ?_, ?_, ?_⟩
  · rintro ⟨template, parsed⟩
    obtain ⟨cutting, cuts, known, -⟩ := parse_eq_ok.mp parsed
    exact ⟨cutting, cuts.text_eq, cuts, known⟩
  · rintro ⟨cutting, -, cuts, known⟩
    exact ⟨_, parse_eq_ok.mpr ⟨cutting, cuts, known, rfl⟩⟩
  · intro template cutting context parsed cuts
    exact (rendered template cutting context parsed cuts).2
  · intro template cutting context parsed cuts bare itself
    obtain ⟨known, output⟩ := rendered template cutting context parsed cuts
    refine String.toList_inj.mp (output.trans ?_)
    rw [cuts.text_eq, Cutting.text]
    refine Cutting.fill_congr fun hole member => ?_
    rw [itself _ (known hole member), Cutting.key, bare hole member]
    simp
  · intro plain
    have cuts : Cuts source.toList ⟨[], source.toList⟩ := .plain plain
    have parsed : parse path source keys = .ok ⟨path, segmentsOf ⟨[], source.toList⟩⟩ :=
      parse_eq_ok.mpr ⟨_, cuts, by simp, rfl⟩
    refine ⟨_, parsed, fun context => ?_⟩
    obtain ⟨-, output⟩ := rendered _ _ context parsed cuts
    exact String.toList_inj.mp output

/-- A value that looks like a placeholder is not read again, a value that is its placeholder puts
the source back together, and single braces are plain text. -/
theorem parse_accepts_cuttings_of_two_holes :
    let source := "\x7d\x7d\x7b\x7ba\x7d\x7d\x7b\x7bb\x7d\x7d\x7d \x7b"
    let cutting : Cutting :=
      ⟨[(['}', '}'], ['a']), ([], ['b'])], ['}', ' ', '{']⟩
    (∀ cutting', Cuts source.toList cutting' → cutting' = cutting) ∧
    (∃ template, parse ⟨["t"]⟩ source ["a", "b"] = .ok template ∧
      template.render [("a", "\x7b\x7bb\x7d\x7d"), ("b", "1")] =
        "\x7d\x7d\x7b\x7bb\x7d\x7d1\x7d \x7b" ∧
      template.render [("a", "\x7b\x7ba\x7d\x7d"), ("b", "\x7b\x7bb\x7d\x7d")] = source) ∧
    ∃ template, parse ⟨["t"]⟩ "\x7d\x7d \x7b" ["a"] = .ok template ∧
      ∀ context, template.render context = "\x7d\x7d \x7b" := by
  intro source cutting
  obtain ⟨accepted, unique, rendered, itself, -⟩ :=
    parse_accepts_cuttings ⟨["t"]⟩ source ["a", "b"]
  have opens : FirstMark opening source.toList ['}', '}']
      "a\x7d\x7d\x7b\x7bb\x7d\x7d\x7d \x7b".toList := cut_eq_some (by decide)
  have more : Cuts "\x7b\x7bb\x7d\x7d\x7d \x7b".toList ⟨[([], ['b'])], cutting.last⟩ :=
    .placeholder (cut_eq_some rfl) (cut_eq_some rfl) (.plain (cut_eq_none rfl))
  have cuts : Cuts source.toList cutting := .placeholder opens (cut_eq_some rfl) more
  obtain ⟨template, parsed⟩ := accepted.mpr ⟨cutting, cuts.text_eq, cuts, by decide +kernel⟩
  refine ⟨fun cutting' cuts' => unique _ _ cuts' cuts, ⟨template, parsed, ?_, ?_⟩, ?_⟩
  · refine String.toList_inj.mp ((rendered template cutting _ parsed cuts).trans ?_)
    decide +kernel
  · exact itself template cutting _ parsed cuts (by decide) (by decide +kernel)
  · exact (parse_accepts_cuttings ⟨["t"]⟩ _ ["a"]).2.2.2.2 (cut_eq_none (c := '{') (by decide))

example :
    (parse ⟨["t"]⟩ "\x7b\x7b\x7b a \x7d\x7d\x7d" ["\x7b a"]).toOption.map
      (fun template => template.render [("\x7b a", "\x7b\x7b b \x7d\x7d")]) =
        some "\x7b\x7b b \x7d\x7d\x7d" := by
  decide +kernel

end Template

end UiScaffold
