import Mathlib.Data.List.DropRight
import Mathlib.Tactic.Common
import UiScaffold.FileSystem.Resolve

/-!
The steps of a path that matter.

Steps at the end of a path that stay where they are change nothing but that a directory is demanded.
The other steps are its way. Parents, ancestors and spellings with fewer slashes have a part of the
way or all of it.
-/

set_option autoImplicit false
set_option relaxedAutoImplicit false

namespace UiScaffold

namespace PathStep

def trim (steps : List PathStep) : List PathStep := steps.rdropWhile (· = .stay)

variable {steps rest : List PathStep}

theorem trim_trim : trim (trim steps) = trim steps := List.rdropWhile_idempotent _ _

theorem trim_prefix : trim steps <+: steps := List.rdropWhile_prefix _ _

theorem trim_append :
    trim (steps ++ rest) = if trim rest = [] then trim steps else steps ++ trim rest := by
  unfold trim List.rdropWhile
  rw [List.reverse_append, List.dropWhile_append]
  by_cases h : rest.reverse.dropWhile (· = PathStep.stay) = []
  · simp [h]
  · simp [h]

private theorem trim_append_trim : trim (steps ++ trim rest) = trim (steps ++ rest) := by
  rw [trim_append, trim_append, trim_trim]

private theorem trim_dropLast_cons {first : PathStep} :
    trim (trim (first :: trim rest)).dropLast = trim (first :: trim rest).dropLast := by
  by_cases alone : trim rest = []
  · have single : trim [first] = if first = .stay then [] else [first] := by
      simpa [trim] using List.rdropWhile_singleton (· = PathStep.stay) first
    rw [alone, single]
    split <;> rfl
  · have whole : trim ([first] ++ trim rest) = [first] ++ trim rest := by
      rw [trim_append, trim_trim, if_neg alone]
    rw [← List.singleton_append, whole]

end PathStep

theorem exists_replicate {α : Type} {p : α → Bool} {x : α} (only : ∀ y, p y = true ↔ y = x)
    (items : List α) : ∃ n, items = items.rdropWhile p ++ List.replicate n x := by
  induction items using List.reverseRecOn with
  | nil => exact ⟨0, rfl⟩
  | append_singleton front last ih =>
    by_cases h : p last = true
    · obtain ⟨n, same⟩ := ih
      refine ⟨n + 1, ?_⟩
      rw [List.rdropWhile_concat_pos _ _ _ h, List.replicate_succ', ← List.append_assoc, ← same,
        (only last).mp h]
    · refine ⟨0, ?_⟩
      rw [List.rdropWhile_concat_neg _ _ _ h, List.replicate_zero, List.append_nil]

namespace PathStep

theorem exists_stays (steps : List PathStep) :
    ∃ n, steps = trim steps ++ List.replicate n .stay :=
  exists_replicate (by simp) steps

theorem prefix_trim {steps rest : List PathStep} (short : rest <+: steps)
    (bare : trim rest = rest) : rest <+: trim steps := by
  obtain ⟨n, same⟩ := exists_stays steps
  rw [same] at short
  rcases List.prefix_or_prefix_of_prefix short (List.prefix_append _ _) with h | ⟨more, h⟩
  · exact h
  · rw [← h, List.prefix_append_right_inj, List.prefix_replicate_iff] at short
    have stays : trim more = [] := by
      rw [short.2, trim, List.rdropWhile_eq_nil_iff]
      intro step hs
      simp [List.eq_of_mem_replicate hs]
    have whole : trim steps = rest := by
      calc trim steps = trim (trim steps) := trim_trim.symm
        _ = trim (trim steps ++ more) := by rw [trim_append, if_pos stays]
        _ = rest := by rw [h, bare]
    exact whole ▸ List.prefix_rfl

end PathStep

namespace Path

open PathStep (trim trim_trim trim_append trim_append_trim trim_prefix trim_dropLast_cons)

/-- The steps that are left when those at the end that stay are left out. -/
def way (path : Path) : List PathStep := trim path.steps

/-- The steps that come before anything that is appended. -/
def stem (path : Path) : List PathStep :=
  if path.pieces.getLast? = some "" then path.steps.dropLast else path.steps

variable {path other : Path} {pieces names : List String}

theorem ofPiece_eq_stay {piece : String} :
    PathStep.ofPiece piece = .stay ↔ isIdle piece = true := by
  unfold PathStep.ofPiece isIdle
  by_cases h : piece = "" ∨ piece = "."
  · simp [h]
  · rw [if_neg h]
    rw [not_or] at h
    split <;> simp [h]

private theorem ofPiece_of_isNormal {name : String} (h : isNormal name = true) :
    PathStep.ofPiece name = .enter name := by
  simp only [isNormal, Bool.and_eq_true, bne_iff_ne] at h
  rw [PathStep.ofPiece, if_neg (by simp [h]), if_neg h.2]

theorem isNormal_of_mem_steps {name : String} (h : .enter name ∈ path.steps) :
    isNormal name = true := by
  obtain ⟨piece, -, same⟩ := List.mem_map.mp h
  unfold PathStep.ofPiece at same
  split at same
  · cases same
  · rename_i named
    split at same <;> cases same
    rename_i other
    rw [not_or] at named
    simp [isNormal, named, other]

private theorem map_ofPiece_of_isNormal (h : ∀ name ∈ names, isNormal name = true) :
    names.map PathStep.ofPiece = names.map .enter :=
  List.map_congr_left fun name hn => ofPiece_of_isNormal (h name hn)

private theorem map_dropIdle :
    (dropIdle pieces).map PathStep.ofPiece =
      trim (pieces.map PathStep.ofPiece) := by
  have idle : (fun piece => decide (PathStep.ofPiece piece = .stay)) = isIdle := by
    funext piece
    by_cases h : isIdle piece = true
    · simp [h, ofPiece_eq_stay]
    · simp [h, ofPiece_eq_stay]
  rw [dropIdle, trim, List.rdropWhile, ← List.map_reverse, List.dropWhile_map, List.map_reverse]
  exact congrArg (fun p => (List.map PathStep.ofPiece (List.dropWhile p pieces.reverse)).reverse)
    idle.symm

theorem isAbsolute_cons {first : String} :
    isAbsolute ⟨first :: pieces⟩ = true ↔ first = "" ∧ pieces ≠ [] := by
  cases pieces with
  | nil => simp [isAbsolute]
  | cons second rest =>
    by_cases h : first = ""
    · simp [h, isAbsolute]
    · simp [h, isAbsolute]

theorem isAbsolute_absolute : (absolute pieces).isAbsolute = true := by
  cases pieces <;> rfl

theorem way_absolute : (absolute pieces).way = trim (pieces.map PathStep.ofPiece) := by
  rw [way, steps, if_pos isAbsolute_absolute]
  cases pieces <;> rfl

theorem way_of_relative (h : path.isAbsolute = false) :
    path.way = trim (path.pieces.map PathStep.ofPiece) := by
  rw [way, steps, if_neg (by simp [h])]

private theorem settled_cons {first : String} (start : first ≠ "") :
    settled (first :: pieces) = first :: dropIdle pieces := by
  simp only [settled]

private theorem way_settled (start : pieces.head? ≠ some "") :
    (relative (settled pieces)).isAbsolute = false ∧
      (relative (settled pieces)).way = trim (pieces.map PathStep.ofPiece) := by
  cases pieces with
  | nil => exact ⟨rfl, rfl⟩
  | cons first rest =>
    have named : first ≠ "" := by simpa using start
    have rel : isAbsolute ⟨first :: dropIdle rest⟩ = false :=
      Bool.eq_false_iff.mpr fun abs => named (isAbsolute_cons.mp abs).1
    rw [settled_cons named, relative, if_neg (List.cons_ne_nil _ _)]
    refine ⟨rel, ?_⟩
    rw [way_of_relative rel, List.map_cons, map_dropIdle, ← List.singleton_append, trim_append_trim]
    rfl

theorem of_parent_eq_some (h : path.parent = some other) :
    other.isAbsolute = path.isAbsolute ∧ other.way = trim path.way.dropLast := by
  unfold parent at h
  by_cases abs : path.isAbsolute = true
  · rw [if_pos abs] at h
    have path_way : path.way = (dropIdle path.pieces.tail).map PathStep.ofPiece := by
      rw [way, steps, if_pos abs, map_dropIdle]
    cases left : dropIdle path.pieces.tail with
    | nil => simp [left] at h
    | cons first rest =>
      simp only [left, Option.some.injEq] at h
      subst h
      refine ⟨isAbsolute_absolute.trans abs.symm, ?_⟩
      rw [way_absolute, map_dropIdle, trim_trim, path_way, left, List.map_dropLast]
  · rw [if_neg abs] at h
    have rel : path.isAbsolute = false := Bool.eq_false_iff.mpr abs
    obtain ⟨pieces⟩ := path
    cases pieces with
    | nil => simp [settled] at h
    | cons first rest =>
      by_cases empty : first = ""
      · subst empty
        simp [settled] at h
      · simp only [settled_cons empty, Option.some.injEq] at h
        subst h
        have start : (first :: dropIdle rest).dropLast.head? ≠ some "" := by
          cases dropIdle rest <;> simp [empty]
        obtain ⟨parent_rel, parent_way⟩ := way_settled start
        refine ⟨parent_rel.trans rel.symm, ?_⟩
        -- A relative path keeps its first piece, which alone may be idle.
        have path_way : way ⟨first :: rest⟩ =
            trim ([PathStep.ofPiece first] ++ trim (rest.map PathStep.ofPiece)) := by
          rw [way_of_relative rel, trim_append_trim]
          rfl
        rw [parent_way, path_way, List.singleton_append, trim_dropLast_cons, List.map_dropLast,
          List.map_cons, map_dropIdle]

/-- The paths without a parent are the empty one and those that lead to the root. -/
theorem of_parent_eq_none (h : path.parent = none) :
    path.isEmpty = true ∨ path.isAbsolute = true ∧ path.way = [] := by
  unfold parent at h
  by_cases abs : path.isAbsolute = true
  · rw [if_pos abs] at h
    refine .inr ⟨abs, ?_⟩
    cases left : dropIdle path.pieces.tail with
    | nil => rw [way, steps, if_pos abs, ← map_dropIdle, left, List.map_nil]
    | cons first rest => simp [left] at h
  · rw [if_neg abs] at h
    have rel : path.isAbsolute = false := Bool.eq_false_iff.mpr abs
    obtain ⟨pieces⟩ := path
    refine .inl ?_
    rcases pieces with _ | ⟨first, rest⟩
    · rfl
    · by_cases empty : first = ""
      · subst empty
        cases rest with
        | nil => rfl
        | cons second more => exact absurd (isAbsolute_cons.mpr ⟨rfl, List.cons_ne_nil _ _⟩) abs
      · simp [settled] at h

theorem of_isEmpty (h : path.isEmpty = true) : path.isAbsolute = false ∧ path.way = [] := by
  obtain ⟨pieces⟩ := path
  simp only [isEmpty, Bool.or_eq_true, beq_iff_eq] at h
  rcases h with rfl | rfl <;> exact ⟨rfl, rfl⟩

private theorem of_mem_ancestorsUpTo (fuel : Nat) (h : other ∈ ancestorsUpTo fuel path) :
    other.isAbsolute = path.isAbsolute ∧ other.way <+: path.way := by
  induction fuel generalizing path with
  | zero => cases h
  | succ fuel ih =>
    rw [ancestorsUpTo, List.mem_cons] at h
    rcases h with rfl | h
    · exact ⟨rfl, List.prefix_rfl⟩
    · cases up : path.parent with
      | none => simp [up] at h
      | some parent =>
        obtain ⟨abs, above⟩ := of_parent_eq_some up
        obtain ⟨abs', above'⟩ := ih (by simpa [up] using h)
        refine ⟨abs'.trans abs, above'.trans ?_⟩
        rw [above]
        exact trim_prefix.trans (List.dropLast_prefix _)

/-- Ancestors have the first steps of the way. -/
theorem of_mem_ancestors (h : other ∈ path.ancestors) :
    other.isAbsolute = path.isAbsolute ∧ other.way <+: path.way :=
  of_mem_ancestorsUpTo _ h

private theorem steps_of_slash (front : List String) :
    steps ⟨front ++ [""]⟩ = (steps ⟨front ++ [""]⟩).dropLast ++ [.stay] := by
  have stays : PathStep.ofPiece "" = .stay := rfl
  unfold steps
  cases front with
  | nil => rfl
  | cons first rest =>
    split
    · rw [List.cons_append, List.tail_cons, List.map_append, List.map_singleton,
        List.dropLast_concat, stays]
    · rw [List.map_append, List.map_singleton, List.dropLast_concat, stays]

theorem trim_stem (path : Path) : trim path.stem = path.way := by
  unfold stem way
  split
  · rename_i last
    obtain ⟨pieces⟩ := path
    obtain ⟨front, rfl⟩ := List.getLast?_eq_some_iff.mp last
    rw [steps_of_slash, List.dropLast_concat, trim_append]
    rfl
  · rfl

theorem append_injective {more : List String} (h : path.append names = path.append more) :
    names = more := by
  unfold append at h
  split at h <;> exact List.append_cancel_left (congrArg Path.pieces h)

section Append

variable (normal : ∀ name ∈ names, isNormal name = true) (filled : names ≠ [])
include normal filled

private theorem isAbsolute_of_normal : isAbsolute ⟨names⟩ = false := by
  obtain ⟨first, rest, rfl⟩ := List.exists_cons_of_ne_nil filled
  refine Bool.eq_false_iff.mpr fun abs => ?_
  have := normal first List.mem_cons_self
  simp [(isAbsolute_cons.mp abs).1, isNormal] at this

theorem append_steps : (path.append names).isAbsolute = path.isAbsolute ∧
    (path.append names).steps = path.stem ++ names.map .enter := by
  have own := map_ofPiece_of_isNormal normal
  have bare := isAbsolute_of_normal normal filled
  obtain ⟨pieces⟩ := path
  unfold append stem
  by_cases last : pieces.getLast? = some ""
  · obtain ⟨front, rfl⟩ := List.getLast?_eq_some_iff.mp last
    rw [if_pos last, if_pos last, List.dropLast_concat]
    cases front with
    | nil =>
      refine ⟨bare, ?_⟩
      rw [steps, if_neg (by simp [bare])]
      exact own
    | cons first rest =>
      have abs : isAbsolute ⟨first :: rest ++ names⟩ = isAbsolute ⟨first :: rest ++ [""]⟩ := by
        rw [Bool.eq_iff_iff, List.cons_append, List.cons_append, isAbsolute_cons, isAbsolute_cons]
        simp [filled]
      refine ⟨abs, ?_⟩
      unfold steps
      rw [abs]
      split
      · rw [List.cons_append, List.cons_append, List.tail_cons, List.tail_cons, List.map_append,
          List.map_append, List.map_singleton, List.dropLast_concat, own]
      · rw [List.map_append, List.map_append, List.map_singleton, List.dropLast_concat, own]
  · rw [if_neg last, if_neg last]
    cases pieces with
    | nil => exact ⟨bare, by simpa [steps, bare] using own⟩
    | cons first rest =>
      have abs : isAbsolute ⟨first :: rest ++ names⟩ = isAbsolute ⟨first :: rest⟩ := by
        rw [Bool.eq_iff_iff, List.cons_append, isAbsolute_cons, isAbsolute_cons]
        refine and_congr_right fun empty => ?_
        subst empty
        cases rest with
        | nil => simp at last
        | cons => simp
      refine ⟨abs, ?_⟩
      unfold steps
      rw [abs]
      split
      · simp [own]
      · simp [own]

theorem append_way : (path.append names).way = path.stem ++ names.map .enter := by
  obtain ⟨front, last, rfl⟩ := (List.eq_nil_or_concat names).resolve_left filled
  rw [way, (append_steps normal filled).2, List.concat_eq_append, List.map_append,
    ← List.append_assoc]
  exact List.rdropWhile_concat_neg _ _ _ (by simp)

end Append

section Parent

variable {name : String}

private theorem dropIdle_concat {pieces : List String} (named : isNormal name = true) :
    dropIdle (pieces ++ [name]) = pieces ++ [name] := by
  refine List.rdropWhile_concat_neg _ _ _ ?_
  simp only [isNormal, Bool.and_eq_true, bne_iff_ne] at named
  simp [isIdle, named.1]

private theorem parent_of_absolute (front : List String) (named : isNormal name = true) :
    parent ⟨"" :: (front ++ [name])⟩ = some (absolute (dropIdle front)) := by
  have abs : isAbsolute ⟨"" :: (front ++ [name])⟩ = true := isAbsolute_cons.mpr ⟨rfl, by simp⟩
  rw [parent, if_pos abs, List.tail_cons, dropIdle_concat named]
  split
  · rename_i none
    simp at none
  · rw [List.dropLast_concat]

private theorem parent_of_relative {first : String} (front : List String) (filled : first ≠ "")
    (named : isNormal name = true) :
    parent ⟨first :: (front ++ [name])⟩ = some ⟨first :: dropIdle front⟩ := by
  have rel : isAbsolute ⟨first :: (front ++ [name])⟩ ≠ true :=
    fun abs => filled (isAbsolute_cons.mp abs).1
  have start (more : List String) : settled (first :: more) = first :: dropIdle more := by
    simp only [settled]
  rw [parent, if_neg rel, start, dropIdle_concat named]
  simp only [← List.cons_append, List.dropLast_concat, start]
  rfl

theorem parent_append (normal : ∀ other ∈ names ++ [name], isNormal other = true)
    (filled : names ≠ []) : (path.append (names ++ [name])).parent = some (path.append names) := by
  have named := normal name (by simp)
  have ends (pieces : List String) : parent ⟨pieces ++ (names ++ [name])⟩ =
      some ⟨pieces ++ names⟩ := by
    obtain ⟨front, last, rfl⟩ := (List.eq_nil_or_concat names).resolve_left filled
    have kept (pieces : List String) : dropIdle (pieces ++ (front ++ [last])) =
        pieces ++ (front ++ [last]) := by
      rw [← List.append_assoc, dropIdle_concat (normal last (by simp))]
    rw [List.concat_eq_append]
    cases pieces with
    | nil =>
      have named_first : ∀ other ∈ front ++ [last], other ≠ "" := by
        rintro other listed rfl
        exact absurd (normal "" (List.mem_append_left _ (by simpa using listed))) (by decide)
      cases front with
      | nil => exact parent_of_relative [] (named_first last (by simp)) named
      | cons first more =>
        have up := parent_of_relative (more ++ [last]) (named_first first (by simp)) named
        rw [dropIdle_concat (normal last (by simp))] at up
        simpa using up
    | cons first rest =>
      by_cases empty : first = ""
      · subst empty
        have up := parent_of_absolute (rest ++ (front ++ [last])) named
        rw [kept] at up
        simpa [absolute] using up
      · have up := parent_of_relative (rest ++ (front ++ [last])) empty named
        rw [kept] at up
        simpa using up
  unfold append
  split
  · exact ends _
  · exact ends _

end Parent

/-- The path from a directory down through names. -/
def down (path : Path) (names : List String) : Path := names.foldl child path

theorem down_concat {name : String} : path.down (names ++ [name]) = (path.down names).child name :=
  List.foldl_concat ..

theorem down_append {more : List String} :
    path.down (names ++ more) = (path.down names).down more :=
  List.foldl_append

theorem child_append {name : String} (normal : isNormal name = true) :
    (path.child name).append names = path.append (name :: names) := by
  have named : name ≠ "" := by
    rintro rfl
    exact absurd normal (by decide)
  unfold child append
  split <;> simp [named]

theorem down_eq_append (normal : ∀ name ∈ names, isNormal name = true) (filled : names ≠ []) :
    path.down names = path.append names := by
  induction names generalizing path with
  | nil => exact absurd rfl filled
  | cons name names ih =>
    cases names with
    | nil => rfl
    | cons second rest =>
      have step : (path.child name).down (second :: rest) =
          (path.child name).append (second :: rest) :=
        ih (fun other h => normal other (List.mem_cons_of_mem _ h)) (List.cons_ne_nil _ _)
      rw [child_append (normal name List.mem_cons_self)] at step
      exact step

/-- Names below a directory go on from its way, and never up. -/
theorem down_steps (normal : ∀ name ∈ names, isNormal name = true) :
    (path.down names).isAbsolute = path.isAbsolute ∧
      ∃ rest, (path.down names).steps = path.way ++ rest ∧ .up ∉ rest := by
  have stays (n : Nat) : .up ∉ List.replicate n PathStep.stay := by simp
  by_cases filled : names = []
  · subst filled
    obtain ⟨n, same⟩ := PathStep.exists_stays path.steps
    exact ⟨rfl, _, same, stays n⟩
  · have ⟨abs, own⟩ : _ ∧ (path.append names).steps = _ := append_steps normal filled
    obtain ⟨n, same⟩ := PathStep.exists_stays path.stem
    rw [down_eq_append normal filled]
    refine ⟨abs, List.replicate n .stay ++ names.map .enter, ?_, ?_⟩
    · rw [own, same, trim_stem, List.append_assoc]
    · simp

theorem append_child {name : String} (normal : ∀ other ∈ names, isNormal other = true)
    (filled : names ≠ []) (named : isNormal name = true) :
    (path.append names).child name = path.append (names ++ [name]) := by
  have all_normal : ∀ other ∈ names ++ [name], isNormal other = true := by
    simpa [or_imp, forall_and, named] using normal
  rw [← down_eq_append normal filled, ← down_concat, down_eq_append all_normal (by simp)]

end Path

end UiScaffold
