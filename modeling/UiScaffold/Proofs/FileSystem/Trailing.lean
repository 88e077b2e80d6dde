import UiScaffold.Proofs.FileSystem.Site

/-!
Slashes and dots at the end of a path.

Pieces behind a name that are empty or a dot make the path longer and want the name to be one of a
directory, but they lead nowhere else. What such a path finds is found without them.
-/

set_option autoImplicit false
set_option relaxedAutoImplicit false

namespace UiScaffold

namespace Text

variable {separator : Char} {chars : List Char}

private theorem splitChars_ne_nil : splitChars separator chars ≠ [] := by
  induction chars with
  | nil => exact List.cons_ne_nil _ _
  | cons c rest ih =>
    rw [splitChars]
    split
    · exact List.cons_ne_nil _ _
    · split <;> exact List.cons_ne_nil _ _

private theorem intercalate_splitChars :
    [separator].intercalate (splitChars separator chars) = chars := by
  induction chars with
  | nil => rfl
  | cons c rest ih =>
    rw [splitChars]
    split
    · rename_i cut
      rw [List.intercalate_cons_of_ne_nil splitChars_ne_nil, ih, cut]
      rfl
    · cases pieces : splitChars separator rest with
      | nil => exact absurd pieces splitChars_ne_nil
      | cons piece more =>
        rw [pieces] at ih
        cases more with
        | nil =>
          rw [List.intercalate_singleton] at ih
          rw [List.intercalate_singleton, ih]
        | cons next more =>
          rw [List.intercalate_cons_cons] at ih
          rw [List.intercalate_cons_cons, List.cons_append, List.cons_append, ih]

end Text

namespace Path

variable {path : Path} {name : String} {front more : List String}

theorem text_ofText (text : String) : (ofText text).text = text := by
  rw [← String.toList_inj]
  show ("/".intercalate ((Text.splitChars '/' text.toList).map String.ofList)).toList = _
  rw [String.toList_intercalate, List.map_map]
  have same : String.toList ∘ String.ofList = id := funext fun _ => String.toList_ofList
  rw [same, List.map_id]
  exact Text.intercalate_splitChars

private theorem refusal?_eq_none : path.refusal? = none ↔
    '\x00' ∉ path.text.toList ∧ path.text.utf8ByteSize ≤ maxLength ∧ path.isEmpty = false := by
  rw [refusal?]
  by_cases nul : '\x00' ∈ path.text.toList
  · simp [nul]
  · by_cases long : maxLength < path.text.utf8ByteSize
    · simp [nul, long, Nat.not_le.mpr long]
    · cases path.isEmpty <;> simp [nul, long, Nat.not_lt.mp long]

private theorem exists_append_eq (path : Path) :
    ∃ front, ∀ pieces, path.append pieces = ⟨front ++ pieces⟩ := by
  by_cases slash : path.pieces.getLast? = some ""
  · exact ⟨path.pieces.dropLast, fun pieces => by rw [append, if_pos slash]⟩
  · exact ⟨path.pieces, fun pieces => by rw [append, if_neg slash]⟩

private theorem text_append (path : Path) {pieces : List String} (filled : pieces ≠ []) :
    ∃ before, (path.append pieces).text = before ++ (Path.mk pieces).text := by
  obtain ⟨front, appended⟩ := path.exists_append_eq
  rw [appended]
  by_cases none : front = []
  · exact ⟨"", by rw [none, List.nil_append, String.empty_append]⟩
  · exact ⟨_, String.intercalate_append_of_ne_nil none filled⟩

private theorem text_trailing (front : List String) (name : String) (more : List String) : ∃ after,
    (Path.mk (front ++ name :: more)).text = (Path.mk (front ++ [name])).text ++ after := by
  rw [List.append_cons]
  by_cases none : more = []
  · exact ⟨"", by rw [none, List.append_nil, String.append_empty]⟩
  · refine ⟨"/" ++ "/".intercalate more, ?_⟩
    rw [← String.append_assoc]
    exact String.intercalate_append_of_ne_nil (by simp) none

section Filled

variable (filled : name ≠ "")
include filled

private theorem isAbsolute_trailing :
    isAbsolute ⟨front ++ name :: more⟩ = isAbsolute ⟨front ++ [name]⟩ := by
  rw [Bool.eq_iff_iff]
  cases front with
  | nil => simp [isAbsolute_cons, filled]
  | cons first rest => simp [isAbsolute_cons]

private theorem steps_trailing : steps ⟨front ++ name :: more⟩ =
    steps ⟨front ++ [name]⟩ ++ more.map PathStep.ofPiece := by
  unfold steps
  rw [isAbsolute_trailing filled, ← List.map_append]
  congr 1
  split
  · rw [List.append_cons, List.tail_append_of_ne_nil (by simp)]
  · rw [List.append_cons]

private theorem way_trailing (idle : ∀ piece ∈ more, isIdle piece = true) :
    way ⟨front ++ name :: more⟩ = way ⟨front ++ [name]⟩ := by
  have stays : PathStep.trim (more.map PathStep.ofPiece) = [] := by
    refine List.rdropWhile_eq_nil_iff.mpr fun step member => ?_
    obtain ⟨piece, listed, rfl⟩ := List.mem_map.mp member
    exact decide_eq_true (ofPiece_eq_stay.mpr (idle piece listed))
  rw [way, steps_trailing filled, PathStep.trim_append, if_pos stays, way]

private theorem refusal?_trailing (accepted : refusal? ⟨front ++ name :: more⟩ = none) :
    refusal? ⟨front ++ [name]⟩ = none := by
  obtain ⟨after, spelled⟩ := text_trailing front name more
  obtain ⟨clean, short, -⟩ := refusal?_eq_none.mp accepted
  rw [spelled] at clean short
  rw [String.toList_append, List.mem_append, not_or] at clean
  rw [String.utf8ByteSize_append] at short
  refine refusal?_eq_none.mpr ⟨clean.1, by omega, ?_⟩
  cases front with
  | nil => simp [isEmpty, filled]
  | cons first rest => simp [isEmpty]

end Filled

end Path

namespace FileSystem

variable {fs : FileSystem} {path : Path} {name : String} {more : List String} {location : Location}

theorem isDirectory_eq_true : fs.isDirectory path = true ↔
    ∃ location, fs.locate path = .ok location ∧ fs.get? location = some .directory := by
  rw [isDirectory, ← status_eq_ok]
  cases fs.status path with
  | error e => simp
  | ok entry => cases entry <;> simp

theorem nulFree_of_locate {pieces : List String} (filled : pieces ≠ [])
    (h : fs.locate (path.append pieces) = .ok location) :
    '\x00' ∉ (Path.mk pieces).text.toList := by
  have accepted := (resolve_eq_ok.mp (locate_eq_ok.mp h)).1
  have clean := (Path.refusal?_eq_none.mp accepted).1
  obtain ⟨before, spelled⟩ := path.text_append filled
  rw [spelled, String.toList_append, List.mem_append, not_or] at clean
  exact clean.2

/-- What is found with idle pieces behind a name is what is found with the name alone. -/
theorem locate_trailing (normal : Path.isNormal name = true)
    (idle : ∀ piece ∈ more, Path.isIdle piece = true)
    (h : fs.locate (path.append (name :: more)) = .ok location) :
    fs.locate (path.child name) = .ok location := by
  have filled : name ≠ "" := by
    rintro rfl
    cases normal
  have one : ∀ other ∈ [name], Path.isNormal other = true := by simpa using normal
  have accepted := (resolve_eq_ok.mp (locate_eq_ok.mp h)).1
  have leads := Leads.of_locate h
  obtain ⟨front, appended⟩ := path.exists_append_eq
  rw [appended] at accepted leads
  have alone : path.child name = ⟨front ++ [name]⟩ := appended [name]
  have leads_alone : fs.Leads (path.child name) location := by
    rw [alone]
    exact (Leads.congr (Path.isAbsolute_trailing filled).symm
      (Path.way_trailing filled idle).symm).mpr leads
  have spelled : (path.child name).refusal? = none := alone ▸ Path.refusal?_trailing filled accepted
  have way : (path.child name).way = (path.child name).steps :=
    (Path.append_way one (List.cons_ne_nil _ _)).trans
      (Path.append_steps one (List.cons_ne_nil _ _)).2.symm
  obtain ⟨n, few, route⟩ := leads_iff.mp leads_alone
  -- The last step enters the name, so that the way leaves none of the steps out.
  rw [way] at route
  exact locate_eq_ok.mpr (resolve_eq_ok.mpr ⟨spelled, n, few, route⟩)

/-- A child that is found is an entry of the directory, and is found there unless that is a link. -/
theorem child_of_locate {site : Location} (normal : Path.isNormal name = true)
    (leads : fs.Leads path site) (h : fs.locate (path.child name) = .ok location) :
    ∃ entry, fs.get? (site ++ [name]) = some entry ∧
      ((∀ target, entry ≠ .link target) → location = site ++ [name]) := by
  have one : ∀ other ∈ [name], Path.isNormal other = true := by simpa using normal
  have ⟨abs, steps⟩ : _ ∧ (path.append [name]).steps = _ :=
    Path.append_steps one (List.cons_ne_nil _ _)
  obtain ⟨-, n, few, route⟩ := resolve_eq_ok.mp (locate_eq_ok.mp h)
  rw [Path.child, base_congr abs, steps] at route
  obtain ⟨middle, k, m, rfl, first, second⟩ := route.split (List.cons_ne_nil _ _)
  have middle_leads : fs.Leads path middle :=
    leads_iff.mpr ⟨k, by omega, Path.trim_stem path ▸ first.trim_of_existing⟩
  obtain rfl := leads.unique middle_leads
  obtain ⟨entry, found⟩ := second.get?_of_enter
  exact ⟨entry, found, fun plain => leads.child_entry normal found plain (Leads.of_locate h)⟩

end FileSystem

end UiScaffold
