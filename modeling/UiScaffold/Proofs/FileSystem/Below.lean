import UiScaffold.Proofs.FileSystem.Growth

/-!
Working below a site.

A site is where a path leads; when nothing below it is a link, all that is done at the path with
some names appended is done at the site with the same names appended.
-/

set_option autoImplicit false
set_option relaxedAutoImplicit false

namespace UiScaffold

open FileSystem (Changes Change Route maxLinks base LinkFree)
open PathStep (trim)

/-- A path leads to a site that has no links at it or below it. -/
structure FileSystem.Open (fs : FileSystem) (path : Path) (site : Location) : Prop where
  leads : fs.Leads path site
  free : fs.LinkFree site

variable {before middle after fs : FileSystem} {output path other : Path} {site location : Location}
  {names : List String} {contents : ByteArray} {mode : Bool}

namespace FileSystem

theorem LinkFree.of_changes {directories files : Location → Prop} (free : before.LinkFree site)
    (change : Changes directories files before after) : after.LinkFree site :=
  fun below under path found => free below under path (change.link_before found)

theorem Open.of_changes {directories files : Location → Prop} (site_open : before.Open output site)
    (change : Changes directories files before after) : after.Open output site :=
  ⟨site_open.leads.of_changes change, site_open.free.of_changes change⟩

def Between (site : Location) (names : List String) (location : Location) : Prop :=
  site <+: location ∧ location <+: site ++ names

private theorem between_append {front : List String} (short : front <+: names) :
    Between site names (site ++ front) :=
  ⟨List.prefix_append _ _, (List.prefix_append_right_inj _).mpr short⟩

/-- An ancestor of what names lead to leads to something on the way down, unless it leads to
something that was there before. -/
private theorem between_of_ancestor {directories files : Location → Prop}
    (site_open : before.Open output site) (change : Changes directories files before after)
    (abs : other.isAbsolute = output.isAbsolute)
    (short : other.way <+: output.stem ++ names.map .enter) (leads : after.Leads other location)
    (vacant : before.get? location = none) : Between site names location := by
  have start : ∀ {place}, after.Leads output place → place = site := fun h =>
    h.unique (site_open.leads.of_changes change)
  have at_site : other.way = output.way → Between site names location := by
    intro same
    obtain rfl := start ((Leads.congr abs same).mp leads)
    exact ⟨List.prefix_rfl, List.prefix_append _ _⟩
  obtain ⟨n, -, route⟩ := leads_iff.mp site_open.leads
  obtain ⟨k, few, there⟩ := leads_iff.mp leads
  rw [base_congr abs, change.workingDirectory] at there
  rcases List.prefix_or_prefix_of_prefix short (List.prefix_append _ _) with above | ⟨rest, below⟩
  · obtain ⟨more, same⟩ := PathStep.prefix_trim above PathStep.trim_trim
    rw [Path.trim_stem] at same
    cases more with
    | nil => exact at_site (by rw [← same, List.append_nil])
    | cons step more =>
      rw [← same] at route
      obtain ⟨middle, i, j, -, first, second⟩ := route.split (List.cons_ne_nil _ _)
      cases ((first.of_changes change).unique there).2
      simp [second.directory_of_cons] at vacant
  · rw [← below, List.prefix_append_right_inj] at short
    obtain ⟨front, inner, rfl⟩ := List.prefix_map_iff.mp short
    cases front with
    | nil =>
      refine at_site ?_
      rw [List.map_nil, List.append_nil] at below
      have bare : trim other.way = other.way := PathStep.trim_trim
      rw [← bare, ← below, Path.trim_stem]
    | cons name front =>
      rw [← below] at there
      obtain ⟨middle, i, j, rfl, first, second⟩ := there.split (by simp)
      obtain rfl := start (leads_iff.mpr ⟨i, by omega, by
        rw [← Path.trim_stem, change.workingDirectory]
        exact first.trim_of_existing⟩)
      have place := (second.straight (site_open.of_changes change).free).2.1
      rw [Target.location] at place
      exact place ▸ between_append inner

theorem MadeAlong.below (site_open : before.Open output site)
    (made : before.MadeAlong path.ancestors after) (abs : path.isAbsolute = output.isAbsolute)
    (way : path.way = trim (output.stem ++ names.map .enter)) :
    Changes (Between site names) (fun _ => False) before after := by
  refine made.changes.mono ?_ fun _ none => none
  rintro location vacant ⟨other, above, leads⟩
  obtain ⟨abs', short⟩ := Path.of_mem_ancestors above
  exact between_of_ancestor site_open made.changes (abs'.trans abs)
    (short.trans (way ▸ PathStep.trim_prefix)) leads vacant

/-- A file with the given contents is written at a location, and nothing else changes. -/
structure Stores (location : Location) (contents : ByteArray) (before after : FileSystem) :
    Prop where
  changes : Changes (fun _ => False) (· = location) before after
  contents : ∃ mode, after.get? location = some (.file contents mode)
  tree : before.IsTree → after.IsTree

private theorem stores_put (filled : names ≠ [])
    (normal : ∀ name ∈ names, Path.isNormal name = true)
    (here : fs.get? (site ++ names.dropLast) = some .directory)
    (free : fs.Writable (site ++ names)) :
    Stores (site ++ names) contents fs (fs.put (site ++ names) (.file contents mode)) := by
  refine ⟨.of_put ?_, ⟨mode, free.get?_put⟩, ?_⟩
  · rcases free with vacant | ⟨old, oldMode, there⟩
    · exact vacant ▸ .created rfl
    · exact there ▸ .overwritten rfl
  · intro tree
    obtain ⟨front, last, rfl⟩ := (List.eq_nil_or_concat names).resolve_left filled
    rw [List.concat_eq_append] at normal here free ⊢
    rw [List.dropLast_concat] at here
    rw [← List.append_assoc] at free ⊢
    exact tree.put here (normal last (by simp)) fun found => absurd found free.ne_directory

end FileSystem

namespace FileAction

open FileSystem

private theorem directory_of_dirs (filled : names ≠ [])
    (dirs : ∀ front, front <+: names → front ≠ names →
      fs.get? (site ++ front) = some .directory) :
    fs.get? (site ++ names.dropLast) = some .directory := by
  refine dirs _ (List.dropLast_prefix names) fun same => ?_
  have shorter := congrArg List.length same
  have := List.length_pos_iff.mpr filled
  rw [List.length_dropLast] at shorter
  omega

variable (site_open : before.Open output site)
  (normal : ∀ name ∈ names, Path.isNormal name = true) (filled : names ≠ [])
include site_open normal filled

/-- Storing below a site needs the directories on the way down. -/
theorem store_below (h : store (output.append names) contents mode before = .ok () after) :
    Stores (site ++ names) contents before after ∧
      ∀ front, front <+: names → front ≠ names →
        before.get? (site ++ front) = some .directory := by
  obtain ⟨target, found, free, rfl⟩ := store_cases h
  obtain ⟨place, dirs⟩ := resolve_below normal filled site_open.leads site_open.free found
  refine ⟨?_, dirs⟩
  rw [place] at free ⊢
  generalize Entry.modeOr mode _ = mode'
  exact stores_put filled normal (directory_of_dirs filled dirs) free

theorem setExecutable_below
    (there : ∃ mode, before.get? (site ++ names) = some (.file contents mode))
    (h : setExecutable (output.append names) mode before = .ok () after) :
    Stores (site ++ names) contents before after := by
  rcases setExecutable_cases h with ⟨location, old, oldMode, located, found, rfl⟩ | rfl
  · obtain ⟨place, dirs⟩ :=
      resolve_below normal filled site_open.leads site_open.free (locate_eq_ok.mp located)
    obtain rfl : location = site ++ names := place
    obtain ⟨mode', there⟩ := there
    cases found.symm.trans there
    exact stores_put filled normal (directory_of_dirs filled dirs) (.inr ⟨_, _, there⟩)
  · exact ⟨Changes.refl, there, id⟩

/-- Copying below a site stores what the source holds, unless the source is the copy itself. -/
theorem copy_below {source : Path}
    (copied : copy source (output.append names) before = .ok () after) :
    ∃ contents location, Stores (site ++ names) contents before after ∧
      (∀ front, front <+: names → front ≠ names →
        before.get? (site ++ front) = some .directory) ∧
      before.locate source = .ok location ∧
      (location ≠ site ++ names → ∃ mode, before.get? location = some (.file contents mode)) := by
  obtain ⟨location, target, contents, mode, located, found, free, held, rfl⟩ := copy_cases copied
  obtain ⟨place, dirs⟩ := resolve_below normal filled site_open.leads site_open.free found
  rw [place] at free held ⊢
  exact ⟨contents, location,
    stores_put filled normal (directory_of_dirs filled dirs) free, dirs, located,
    fun away => ⟨mode, held away⟩⟩

end FileAction

end UiScaffold
