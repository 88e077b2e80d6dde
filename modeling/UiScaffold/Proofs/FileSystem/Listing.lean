import Mathlib.Data.List.Nodup
import UiScaffold.Proofs.FileSystem.Growth
import UiScaffold.Proofs.Text.ByteOrder

/-!
The names in a directory.

They are sorted by putting one after the other in its place. Where no two entries stand at the same
location, no name is listed twice, so that every name is smaller than those after it; and so are its
bytes.
-/

set_option autoImplicit false
set_option relaxedAutoImplicit false

namespace UiScaffold.FileSystem

variable {fs : FileSystem} {location : Location} {entry : Entry}

section Sorting

variable {name : String} {names : List String}

private theorem insertName_perm : (insertName name names).Perm (name :: names) := by
  induction names with
  | nil => exact .refl _
  | cons first rest ih =>
    rw [insertName]
    split
    · exact .refl _
    · exact (ih.cons first).trans (.swap name first rest)

private theorem sorted_perm : (names.foldr insertName []).Perm names := by
  induction names with
  | nil => exact .refl _
  | cons first rest ih => exact insertName_perm.trans (ih.cons first)

private theorem pairwise_insertName (sorted : names.Pairwise (· ≤ ·)) :
    (insertName name names).Pairwise (· ≤ ·) := by
  induction names with
  | nil => exact List.pairwise_singleton _ _
  | cons first rest ih =>
    have smaller : ∀ other ∈ rest, first ≤ other := (List.pairwise_cons.mp sorted).1
    rw [insertName]
    split
    · rename_i before
      refine List.pairwise_cons.mpr ⟨fun other member => ?_, sorted⟩
      rcases List.mem_cons.mp member with rfl | later
      · exact before
      · exact String.le_trans before (smaller _ later)
    · rename_i after
      refine List.pairwise_cons.mpr ⟨fun other member => ?_, ih sorted.of_cons⟩
      rcases mem_insertName.mp member with rfl | later
      · exact (String.le_total _ _).resolve_left after
      · exact smaller _ later

private theorem pairwise_sorted : (names.foldr insertName []).Pairwise (· ≤ ·) := by
  induction names with
  | nil => exact .nil
  | cons first rest ih => exact pairwise_insertName ih

end Sorting

/-- No two entries stand at the same location, and no name on the way to one has a slash in it. -/
structure IsNamed (fs : FileSystem) : Prop where
  distinct : (fs.entries.map Prod.fst).Nodup
  unslashed : ∀ place ∈ fs.entries.map Prod.fst, ∀ name ∈ place, '/' ∉ name.toList

namespace IsNamed

theorem unslashed_of_get? (named : fs.IsNamed) {directory : Location} {name : String}
    (there : fs.get? (directory ++ [name]) = some entry) : '/' ∉ name.toList :=
  named.unslashed _ (List.mem_map_of_mem (mem_of_get?_concat there)) name (by simp)

private theorem nodup_names (named : fs.IsNamed) (directory : Location) :
    (fs.names directory).Nodup := by
  rw [names, sorted_perm.nodup_iff]
  have placed : (fs.entries.map Prod.fst).filterMap (nameIn directory) =
      fs.entries.filterMap fun e => nameIn directory e.1 := List.filterMap_map
  rw [← placed]
  refine named.distinct.filterMap fun place other name first second => ?_
  rw [nameIn_eq_some.mp first, nameIn_eq_some.mp second]

/-- The bytes of the names in a directory increase from name to name. -/
theorem bytes_increase (named : fs.IsNamed) (directory : Location) :
    (fs.names directory).Pairwise fun first second => Text.bytes first < Text.bytes second := by
  have sorted : (fs.names directory).Pairwise (· ≤ ·) := pairwise_sorted
  refine (sorted.and (named.nodup_names directory)).imp fun ⟨before, apart⟩ => ?_
  exact Text.bytes_lt_bytes (lt_of_le_of_ne before apart)

end IsNamed

end UiScaffold.FileSystem
