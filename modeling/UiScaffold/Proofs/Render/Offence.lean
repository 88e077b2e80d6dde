import UiScaffold.Proofs.Render.Substitution
import UiScaffold.Proofs.Text.Bytes

/-!
Which placeholder a template is refused for.

Openings are taken from the left, each behind the placeholder before it. The first one that is never
closed, or whose key is not known, is to blame: its line and what is wrong with it are reported. The
text before it is a template in its own right, and of the text after it only the inside matters.

The place can also be kept as a single number of bytes, with parts sliced out of what is left. A
slice that ended inside a character or beyond the text would be none; no such slice is ever asked
for.
-/

set_option autoImplicit false
set_option relaxedAutoImplicit false

namespace UiScaffold

open Cutting (opening closing key)
open Text (byteLength takeBytes? dropBytes?)

namespace Template

/-- What is wrong with a placeholder, by the text after its opening. -/
inductive Blames (keys : List String) (after : List Char) : Problem → Prop
  | unterminated : ¬ closing <:+: after → Blames keys after .unterminated
  | unknownKey {inside rest : List Char} :
      FirstMark closing after inside rest → key inside ∉ keys →
      Blames keys after (.unknownKey (key inside))

/-- The first opening with something wrong: the placeholders before it are closed and have known
keys. -/
inductive Offends (keys : List String) : List Char → List Char → List Char → Problem → Prop
  | here {text before after : List Char} {problem : Problem} :
      FirstMark opening text before after → Blames keys after problem →
      Offends keys text before after problem
  | later {text literal behind inside rest before after : List Char} {problem : Problem} :
      FirstMark opening text literal behind → FirstMark closing behind inside rest →
      key inside ∈ keys → Offends keys rest before after problem →
      Offends keys text (literal ++ opening ++ inside ++ closing ++ before) after problem

def findMark? (mark : List Char) : List Char → Option Nat
  | [] => none
  | c :: rest => if mark <+: c :: rest then some 0 else (findMark? mark rest).map (c.utf8Size + ·)

/-- A fault at an offset of the source, in the line that the text before it ends in. -/
def faultAt? (source : List Char) (offset : Nat) (problem : Problem) : Option Fault :=
  (takeBytes? offset source).map fun before => ⟨before.count '\n' + 1, problem⟩

/-- Reads the segments of what is left of the source at an offset; none if a slice is not one of the
text. -/
def scanBytes? (keys : List String) (source : List Char) (offset : Nat) (rest : List Char) :
    Option (Except Fault (List Segment)) :=
  match findMark? opening rest with
  | none => some (.ok (literals rest))
  | some start => do
    let literal ← takeBytes? start rest
    let behind ← dropBytes? (start + byteLength opening) rest
    match findMark? closing behind with
    | none => (faultAt? source (offset + start) .unterminated).map .error
    | some stop =>
      let inside ← takeBytes? stop behind
      if key inside ∈ keys then
        let consumed := start + byteLength opening + stop + byteLength closing
        match _hLeft : dropBytes? consumed rest with
        | none => none
        | some left =>
          let more ← scanBytes? keys source (offset + consumed) left
          return more.map fun segments => literals literal ++ .placeholder (key inside) :: segments
      else (faultAt? source (offset + start) (.unknownKey (key inside))).map .error
termination_by rest.length
decreasing_by
  exact Text.length_lt_of_dropBytes? _hLeft

def parseBytes? (path : Path) (source : String) (keys : List String) :
    Option (Except Fault Template) :=
  (scanBytes? keys source.toList 0 source.toList).map fun scanned =>
    scanned.map fun segments => ⟨path, segments⟩

end Template

namespace FirstMark

variable {mark text before after : List Char}

private theorem swap (h : FirstMark mark text before after) (after' : List Char) :
    FirstMark mark (before ++ mark ++ after') before after' := by
  refine ⟨rfl, ?_⟩
  intro front back place
  by_contra shorter
  have fits : (front ++ mark).length ≤ (before ++ mark).length := by
    simp only [List.length_append]
    omega
  have within : front ++ mark <+: before ++ mark :=
    List.prefix_of_prefix_length_le ⟨back, place.symm⟩ ⟨after', rfl⟩ fits
  obtain ⟨between, same⟩ := within
  have earlier : text = front ++ mark ++ (between ++ after) := by
    rw [h.place, ← same, List.append_assoc (front ++ mark)]
  exact shorter (h.first front _ earlier)

private theorem absent_before (h : FirstMark mark text before after) (filled : mark ≠ []) :
    ¬ mark <:+: before := by
  rintro ⟨front, back, place⟩
  have earlier : text = front ++ mark ++ (back ++ mark ++ after) := by
    rw [h.place, ← place]
    simp
  have least := h.first front _ earlier
  have positive := List.length_pos_of_ne_nil filled
  rw [← place] at least
  simp only [List.length_append] at least
  omega

end FirstMark

namespace Template

variable {keys : List String} {problem problem' : Problem} {line : Nat}
  {text before after before' after' : List Char}

private theorem Blames.unique (h : Blames keys after problem) (h' : Blames keys after problem') :
    problem = problem' := by
  cases h with
  | unterminated open_end =>
    cases h' with
    | unterminated _ => rfl
    | unknownKey closes _ => exact absurd closes.isInfix open_end
  | unknownKey closes _ =>
    cases h' with
    | unterminated open_end => exact absurd closes.isInfix open_end
    | unknownKey closes' _ =>
      obtain ⟨rfl, -⟩ := closes.unique closes'
      rfl

private theorem not_blames {inside rest : List Char} (closes : FirstMark closing after inside rest)
    (known : key inside ∈ keys) : ¬ Blames keys after problem := by
  intro blamed
  cases blamed with
  | unterminated open_end => exact open_end closes.isInfix
  | unknownKey closes' unknown =>
    obtain ⟨rfl, -⟩ := closes.unique closes'
    exact unknown known

namespace Offends

private theorem place (h : Offends keys text before after problem) :
    text = before ++ opening ++ after := by
  induction h with
  | here opens _ => exact opens.place
  | later opens closes _ _ ih =>
    rw [opens.place, closes.place, ih]
    simp

private theorem blames (h : Offends keys text before after problem) :
    Blames keys after problem := by
  induction h with
  | here _ blamed => exact blamed
  | later _ _ _ _ ih => exact ih

private theorem unique (h : Offends keys text before after problem)
    (h' : Offends keys text before' after' problem') : before = before' ∧ after = after' := by
  induction h generalizing before' with
  | here opens blamed =>
    cases h' with
    | here opens' _ => exact opens.unique opens'
    | later opens' closes' known' _ =>
      obtain ⟨rfl, rfl⟩ := opens.unique opens'
      exact absurd blamed (not_blames closes' known')
  | later opens closes known _ ih =>
    cases h' with
    | here opens' blamed' =>
      obtain ⟨rfl, rfl⟩ := opens.unique opens'
      exact absurd blamed' (not_blames closes known)
    | later opens' closes' _ more' =>
      obtain ⟨rfl, rfl⟩ := opens.unique opens'
      obtain ⟨rfl, rfl⟩ := closes.unique closes'
      obtain ⟨rfl, rfl⟩ := ih more'
      exact ⟨rfl, rfl⟩

private theorem cuts_before (h : Offends keys text before after problem) :
    ∃ cutting, Cuts before cutting ∧ ∀ hole ∈ cutting.holes, key hole.2 ∈ keys := by
  induction h with
  | @here text before after _ opens _ =>
    exact ⟨⟨[], before⟩, .plain (opens.absent_before (by simp [opening])), nofun⟩
  | @later text literal behind inside rest before after _ opens closes known _ ih =>
    obtain ⟨cutting, cuts, all_known⟩ := ih
    have opens' := opens.swap (inside ++ closing ++ before)
    have closes' := closes.swap before
    refine ⟨⟨(literal, inside) :: cutting.holes, cutting.last⟩, ?_, ?_⟩
    · have cut := Cuts.placeholder opens' closes' cuts
      simpa only [List.append_assoc] using cut
    · rw [List.forall_mem_cons]
      exact ⟨known, all_known⟩

private theorem swap (h : Offends keys text before after problem)
    (blamed : Blames keys after' problem') :
    Offends keys (before ++ opening ++ after') before after' problem' := by
  induction h with
  | here opens _ => exact .here (opens.swap after') blamed
  | @later text literal behind inside rest before after _ opens closes known _ ih =>
    have opens' := opens.swap (inside ++ closing ++ (before ++ opening ++ after'))
    have closes' := closes.swap (before ++ opening ++ after')
    have offends := Offends.later opens' closes' known ih
    simpa only [List.append_assoc] using offends

end Offends

/-- A text is cut at placeholders with known keys, or some opening is to blame. The induction is on
the length of the text, of which each placeholder leaves less. -/
private theorem cuts_or_offends (keys : List String) (text : List Char) :
    (∃ cutting, Cuts text cutting ∧ ∀ hole ∈ cutting.holes, key hole.2 ∈ keys) ∨
      ∃ before after problem, Offends keys text before after problem := by
  induction size : text.length using Nat.strong_induction_on generalizing text with
  | _ length ih =>
    cases opened : cut '{' text with
    | none => exact .inl ⟨⟨[], text⟩, .plain (cut_eq_none opened), nofun⟩
    | some parts =>
      obtain ⟨literal, behind⟩ := parts
      have opens : FirstMark opening text literal behind := cut_eq_some opened
      cases closed : cut '}' behind with
      | none => exact .inr ⟨literal, behind, _, .here opens (.unterminated (cut_eq_none closed))⟩
      | some parts =>
        obtain ⟨inside, rest⟩ := parts
        have closes : FirstMark closing behind inside rest := cut_eq_some closed
        by_cases known : key inside ∈ keys
        · have shorter : rest.length < length := by
            have first := length_lt_of_cut opened
            have second := length_lt_of_cut closed
            omega
          rcases ih rest.length shorter rest rfl with ⟨cutting, cuts, all_known⟩ | offence
          · refine .inl ⟨⟨(literal, inside) :: cutting.holes, cutting.last⟩, ?_, ?_⟩
            · exact .placeholder opens closes cuts
            · rw [List.forall_mem_cons]
              exact ⟨known, all_known⟩
          · obtain ⟨before, after, problem, offends⟩ := offence
            exact .inr ⟨_, after, problem, .later opens closes known offends⟩
        · exact .inr ⟨literal, behind, _, .here opens (.unknownKey closes known)⟩

private theorem scan_blamed (opens : FirstMark opening text before after)
    (blamed : Blames keys after problem) :
    scan keys line text = .error ⟨line + before.count '\n', problem⟩ := by
  have opened : cut '{' text = some (before, after) := cut_of_firstMark opens
  rw [scan]
  split
  · next none =>
    rw [opened] at none
    cases none
  · next found =>
    rw [opened] at found
    cases found
    cases blamed with
    | unterminated open_end =>
      have unclosed : cut '}' after = none := cut_of_absent open_end
      split
      · rfl
      · next found =>
        rw [unclosed] at found
        cases found
    | unknownKey closes unknown =>
      have closed : cut '}' after = some _ := cut_of_firstMark closes
      split
      · next none =>
        rw [closed] at none
        cases none
      · next found =>
        rw [closed] at found
        cases found
        exact if_neg unknown

private theorem scan_of_offends (h : Offends keys text before after problem) :
    scan keys line text = .error ⟨line + before.count '\n', problem⟩ := by
  induction h generalizing line with
  | here opens blamed => exact scan_blamed opens blamed
  | later opens closes known _ ih =>
    rw [scan_placeholder line (cut_of_firstMark opens) (cut_of_firstMark closes) known, ih]
    simp only [Except.map, List.count_append, opening, closing, Nat.add_assoc]
    simp

private theorem findMark?_eq (c : Char) (text : List Char) :
    findMark? [c, c] text = (cut c text).map fun parts => byteLength parts.1 := by
  fun_induction cut c text with
  | case1 a b rest doubled =>
    obtain ⟨rfl, rfl⟩ := doubled
    have here : [b, b] <+: b :: b :: rest := ⟨rest, rfl⟩
    rw [findMark?, if_pos here]
    rfl
  | case2 a b rest single ih =>
    have elsewhere : ¬ [c, c] <+: a :: b :: rest := by
      rintro ⟨back, place⟩
      simp only [List.cons_append, List.nil_append, List.cons.injEq] at place
      exact single ⟨place.1.symm, place.2.1.symm⟩
    rw [findMark?, if_neg elsewhere, ih, Option.map_map, Option.map_map]
    rfl
  | case3 text short =>
    rcases text with _ | ⟨a, _ | ⟨b, rest⟩⟩
    · rfl
    · have elsewhere : ¬ [c, c] <+: [a] := by
        intro longer
        have := longer.length_le
        simp at this
      rw [findMark?, if_neg elsewhere]
      rfl
    · exact absurd rfl (short a b rest)

private theorem findMark?_of_firstMark {c : Char} (h : FirstMark [c, c] text before after) :
    findMark? [c, c] text = some (byteLength before) := by
  rw [findMark?_eq, cut_of_firstMark h]
  rfl

private theorem findMark?_of_absent {c : Char} (h : ¬ [c, c] <:+: text) :
    findMark? [c, c] text = none := by
  rw [findMark?_eq, cut_of_absent h]
  rfl

private theorem slices_of_firstMark {mark : List Char} (h : FirstMark mark text before after) :
    takeBytes? (byteLength before) text = some before ∧
      dropBytes? (byteLength before + byteLength mark) text = some after := by
  rw [← Text.byteLength_append, h.place]
  constructor
  · rw [List.append_assoc]
    exact Text.takeBytes?_append
  · exact Text.dropBytes?_append

section

variable {source done rest literal inside behind left : List Char}

private theorem faultAt?_eq (place : source = done ++ rest) :
    faultAt? source (byteLength done) problem = some ⟨done.count '\n' + 1, problem⟩ := by
  rw [faultAt?, place, Text.takeBytes?_append]
  rfl

private theorem scanBytes?_plain {offset : Nat} (absent : ¬ opening <:+: rest) :
    scanBytes? keys source offset rest = some (.ok (literals rest)) := by
  have none : findMark? opening rest = none := findMark?_of_absent absent
  rw [scanBytes?, none]

private theorem scanBytes?_blamed (place : source = done ++ rest)
    (opens : FirstMark opening rest literal behind) (blamed : Blames keys behind problem) :
    scanBytes? keys source (byteLength done) rest =
      some (.error ⟨(done ++ literal).count '\n' + 1, problem⟩) := by
  have opened : findMark? opening rest = some (byteLength literal) := findMark?_of_firstMark opens
  obtain ⟨literal_slice, behind_slice⟩ := slices_of_firstMark opens
  have fault : ∀ problem, faultAt? source (byteLength done + byteLength literal) problem =
      some ⟨(done ++ literal).count '\n' + 1, problem⟩ := by
    intro problem
    have split : source = (done ++ literal) ++ (opening ++ behind) := by
      rw [place, opens.place]
      simp
    rw [← Text.byteLength_append]
    exact faultAt?_eq split
  rw [scanBytes?, opened]
  simp only [literal_slice, behind_slice, Option.bind_eq_bind, Option.bind_some, fault]
  cases blamed with
  | unterminated open_end =>
    have unclosed : findMark? closing behind = none := findMark?_of_absent open_end
    rw [unclosed]
    rfl
  | @unknownKey inside _ closes unknown =>
    have closed : findMark? closing behind = some (byteLength inside) :=
      findMark?_of_firstMark closes
    have inside_slice := (slices_of_firstMark closes).1
    rw [closed]
    simp only [inside_slice, Option.bind_some, if_neg unknown]
    rfl

private theorem scanBytes?_placeholder {offset : Nat}
    (opens : FirstMark opening rest literal behind)
    (closes : FirstMark closing behind inside left) (known : key inside ∈ keys) :
    scanBytes? keys source offset rest =
      (scanBytes? keys source (offset + byteLength (literal ++ opening ++ inside ++ closing))
        left).map fun more => more.map fun segments =>
          literals literal ++ .placeholder (key inside) :: segments := by
  have opened : findMark? opening rest = some (byteLength literal) := findMark?_of_firstMark opens
  obtain ⟨literal_slice, behind_slice⟩ := slices_of_firstMark opens
  have closed : findMark? closing behind = some (byteLength inside) := findMark?_of_firstMark closes
  have inside_slice := (slices_of_firstMark closes).1
  have consumed : byteLength literal + byteLength opening + byteLength inside + byteLength closing =
      byteLength (literal ++ opening ++ inside ++ closing) := by
    simp only [Text.byteLength_append]
  have left_slice : dropBytes? (byteLength literal + byteLength opening + byteLength inside +
      byteLength closing) rest = some left := by
    have split : rest = (literal ++ opening ++ inside ++ closing) ++ left := by
      rw [opens.place, closes.place]
      simp
    rw [consumed, split]
    exact Text.dropBytes?_append
  rw [scanBytes?, opened]
  simp only [literal_slice, behind_slice, Option.bind_eq_bind, Option.bind_some, closed,
    inside_slice, if_pos known, consumed]
  split
  · next none =>
    rw [left_slice] at none
    cases none
  · next found =>
    rw [left_slice] at found
    cases found
    cases scanBytes? keys source _ left <;> rfl

private theorem scanBytes?_of_cuts {cutting : Cutting} {offset : Nat} (cuts : Cuts rest cutting)
    (known : ∀ hole ∈ cutting.holes, key hole.2 ∈ keys) :
    scanBytes? keys source offset rest = some (.ok (segmentsOf cutting)) := by
  induction cuts generalizing offset with
  | plain absent => exact scanBytes?_plain absent
  | @placeholder text literal after inside rest last holes opens closes _ ih =>
    have known_first : key inside ∈ keys := known (literal, inside) List.mem_cons_self
    have known_more : ∀ hole ∈ holes, key hole.2 ∈ keys :=
      fun hole member => known hole (List.mem_cons_of_mem _ member)
    rw [scanBytes?_placeholder opens closes known_first, ih known_more]
    simp [Except.map, segmentsOf]

/-- The offset of the opening to blame is that of the whole text, however many placeholders were
passed: the line is counted from the start. -/
private theorem scanBytes?_of_offends (place : source = done ++ rest)
    (h : Offends keys rest before after problem) :
    scanBytes? keys source (byteLength done) rest =
      some (.error ⟨(done ++ before).count '\n' + 1, problem⟩) := by
  induction h generalizing done with
  | here opens blamed => exact scanBytes?_blamed place opens blamed
  | @later text literal behind inside rest before after _ opens closes known _ ih =>
    have split : source = (done ++ (literal ++ opening ++ inside ++ closing)) ++ rest := by
      rw [place, opens.place, closes.place]
      simp
    rw [scanBytes?_placeholder opens closes known, ← Text.byteLength_append, ih split]
    simp [Except.map]

end

variable {path : Path} {source : String} {fault : Fault}

private theorem parse_eq_error : parse path source keys = .error fault ↔
    ∃ before after, Offends keys source.toList before after fault.problem ∧
      fault.line = before.count '\n' + 1 := by
  have refused : ∀ {before after problem}, Offends keys source.toList before after problem →
      parse path source keys = .error ⟨1 + before.count '\n', problem⟩ := by
    intro before after problem offends
    rw [parse, scan_of_offends offends]
    rfl
  constructor
  · intro parsed
    rcases cuts_or_offends keys source.toList with ⟨cutting, cuts, known⟩ | offence
    · rw [parse_eq_ok.mpr ⟨cutting, cuts, known, rfl⟩] at parsed
      cases parsed
    · obtain ⟨before, after, problem, offends⟩ := offence
      rw [refused offends] at parsed
      cases parsed
      exact ⟨before, after, offends, Nat.add_comm 1 _⟩
  · rintro ⟨before, after, offends, line⟩
    rw [refused offends, Nat.add_comm, ← line]

private theorem parseBytes?_eq (path : Path) (source : String) (keys : List String) :
    parseBytes? path source keys = some (parse path source keys) := by
  have start : scanBytes? keys source.toList (byteLength []) source.toList =
      some (scan keys 1 source.toList) := by
    rcases cuts_or_offends keys source.toList with ⟨cutting, cuts, known⟩ | offence
    · rw [scanBytes?_of_cuts cuts known, scan_of_cuts cuts known]
    · obtain ⟨before, after, problem, offends⟩ := offence
      rw [scanBytes?_of_offends (List.nil_append _).symm offends, scan_of_offends offends,
        List.nil_append, Nat.add_comm]
  rw [Text.byteLength_nil] at start
  rw [parseBytes?, start]
  rfl

private theorem message_ne_unterminated (name : String) :
    (Problem.unknownKey name).message ≠ "unterminated placeholder" := by
  intro same
  have spelled : ("unknown placeholder `" ++ name ++ "`").toList =
      "unterminated placeholder".toList :=
    congrArg String.toList same
  have start : "unknown placeholder `".toList = ['u', 'n', 'k'] ++ "nown placeholder `".toList :=
    rfl
  rw [String.toList_append, String.toList_append, start] at spelled
  have third := congrArg (fun chars => chars[2]?) spelled
  simp at third

private theorem Blames.message_eq_iff (h : Blames keys after problem) :
    problem.message = "unterminated placeholder" ↔ ¬ closing <:+: after := by
  cases h with
  | unterminated open_end => exact iff_of_true rfl open_end
  | unknownKey closes _ =>
    exact iff_of_false (message_ne_unterminated _) (not_not_intro closes.isInfix)

/-- A template is refused exactly when some opening is to blame, which is one place of the source.
The line is that of the opening, and what is wrong is told by whether the placeholder is ever
closed. The text before the opening is a template, and other text after it changes what is wrong
only through the inside of the placeholder. Reading by offsets, every slice is one of the text. -/
theorem parse_blames_first_offence (path : Path) (source : String) (keys : List String) :
    parseBytes? path source keys = some (parse path source keys) ∧
    ((∃ fault, parse path source keys = .error fault) ↔
      ∃ before after problem, Offends keys source.toList before after problem) ∧
    ∀ fault, parse path source keys = .error fault → ∃ before after,
      Offends keys source.toList before after fault.problem ∧
      source.toList = before ++ opening ++ after ∧
      (∀ before' after' problem', Offends keys source.toList before' after' problem' →
        before' = before ∧ after' = after) ∧
      fault.line = before.count '\n' + 1 ∧
      (fault.problem.message = "unterminated placeholder" ↔ ¬ closing <:+: after) ∧
      (∀ inside rest, FirstMark closing after inside rest → key inside ∉ keys ∧
        fault.problem.message = "unknown placeholder `" ++ key inside ++ "`") ∧
      (∃ cutting, Cuts before cutting ∧ ∀ hole ∈ cutting.holes, key hole.2 ∈ keys) ∧
      ∀ after' problem', Blames keys after' problem' →
        parse path (String.ofList (before ++ opening ++ after')) keys =
          .error ⟨fault.line, problem'⟩ := by
  refine ⟨parseBytes?_eq path source keys, ?_, ?_⟩
  · constructor
    · rintro ⟨fault, parsed⟩
      obtain ⟨before, after, offends, -⟩ := parse_eq_error.mp parsed
      exact ⟨before, after, fault.problem, offends⟩
    · rintro ⟨before, after, problem, offends⟩
      exact ⟨⟨before.count '\n' + 1, problem⟩, parse_eq_error.mpr ⟨before, after, offends, rfl⟩⟩
  · intro fault parsed
    obtain ⟨before, after, offends, line⟩ := parse_eq_error.mp parsed
    refine ⟨before, after, offends, offends.place, ?_, line, offends.blames.message_eq_iff, ?_,
      offends.cuts_before, ?_⟩
    · intro before' after' problem' offends'
      exact offends'.unique offends
    · intro inside rest closes
      have unknown : key inside ∉ keys := fun known => not_blames closes known offends.blames
      have same : fault.problem = .unknownKey (key inside) :=
        offends.blames.unique (.unknownKey closes unknown)
      rw [same]
      exact ⟨unknown, rfl⟩
    · intro after' problem' blamed
      refine parse_eq_error.mpr ⟨before, after', ?_, line⟩
      rw [String.toList_ofList]
      exact offends.swap blamed

/-- An opening inside a placeholder is part of its key, which is blamed in the line of the first of
the two openings; cut off behind that opening, the text is blamed for the end instead. -/
theorem parse_blames_first_offence_of_nested_opening :
    let source := "\x7b\x7ba\x7d\x7d\né \x7b\x7b\n\x7b\x7ba\x7d\x7d \x7b\x7b"
    parseBytes? ⟨["t"]⟩ source ["a"] = some (.error ⟨2, .unknownKey "\x7b\x7ba"⟩) ∧
    ∃ before after, Offends ["a"] source.toList before after (.unknownKey "\x7b\x7ba") ∧
      source.toList = before ++ opening ++ after ∧ before.count '\n' = 1 ∧ closing <:+: after ∧
      (∃ cutting, Cuts before cutting ∧ ∀ hole ∈ cutting.holes, key hole.2 ∈ ["a"]) ∧
      parse ⟨["t"]⟩ (String.ofList (before ++ opening)) ["a"] = .error ⟨2, .unterminated⟩ := by
  intro source
  obtain ⟨bytes, -, blamed⟩ := parse_blames_first_offence ⟨["t"]⟩ source ["a"]
  have refused : parse ⟨["t"]⟩ source ["a"] = .error ⟨2, .unknownKey "\x7b\x7ba"⟩ := by
    decide +kernel
  obtain ⟨before, after, offends, place, -, line, ended, -, cuts, swapped⟩ := blamed _ refused
  refine ⟨bytes.trans (congrArg some refused), before, after, offends, place,
    (Nat.succ.inj line).symm, ?_, cuts, ?_⟩
  · exact not_not.mp (mt ended.mpr (message_ne_unterminated _))
  · have cut_off := swapped [] .unterminated (.unterminated (by decide))
    rwa [List.append_nil] at cut_off

end Template

end UiScaffold
