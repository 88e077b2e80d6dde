import Mathlib.Tactic.Common
import UiScaffold.FileSystem.Basic

/-!
What stands where, and how it may change.

A change adds directories where nothing stood, and writes files where nothing or a file stood; what
else stands in the tree stays. Changes compose, and none of them takes a directory or a link away.
-/

set_option autoImplicit false
set_option relaxedAutoImplicit false

namespace UiScaffold.FileSystem

variable {fs before middle after : FileSystem} {location other : Location} {entry : Entry}

private theorem lookup_putEntry {entries : List (Location × Entry)} :
    (putEntry location entry entries).lookup other =
      if other = location then some entry else entries.lookup other := by
  induction entries with
  | nil =>
    by_cases h : other = location
    · simp [putEntry, h]
    · simp [putEntry, List.lookup_cons, beq_eq_false_iff_ne.mpr h, h]
  | cons first rest ih =>
    obtain ⟨place, old⟩ := first
    rw [putEntry]
    by_cases same : place = location
    · subst same
      by_cases h : other = place
      · simp [h]
      · simp [List.lookup_cons, beq_eq_false_iff_ne.mpr h, h]
    · rw [if_neg same]
      by_cases h : other = place
      · subst h
        simp [same]
      · simp [List.lookup_cons, beq_eq_false_iff_ne.mpr h, ih]

private theorem putEntry_putEntry {later : Entry} {entries : List (Location × Entry)} :
    putEntry location later (putEntry location entry entries) =
      putEntry location later entries := by
  induction entries with
  | nil => simp [putEntry]
  | cons first rest ih =>
    obtain ⟨place, old⟩ := first
    by_cases same : place = location
    · simp [putEntry, same]
    · simp [putEntry, same, ih]

theorem put_put {later : Entry} :
    (fs.put location entry).put location later = fs.put location later := by
  simp only [put, putEntry_putEntry]

@[simp] theorem get?_nil : fs.get? [] = some .directory := rfl

theorem get?_put_self (h : location ≠ []) : (fs.put location entry).get? location = some entry := by
  rw [get?, if_neg h, put, lookup_putEntry, if_pos rfl]

theorem get?_put_of_ne (h : other ≠ location) :
    (fs.put location entry).get? other = fs.get? other := by
  unfold get?
  split
  · rfl
  · rw [put, lookup_putEntry, if_neg h]

theorem hasDirectory_iff :
    fs.hasDirectory location = true ↔ fs.get? location = some .directory := by
  unfold hasDirectory
  split
  · rename_i h
    simp [h]
  · rename_i h
    simpa using h

theorem mem_insertName {name item : String} {names : List String} :
    item ∈ insertName name names ↔ item = name ∨ item ∈ names := by
  induction names with
  | nil => simp [insertName]
  | cons first rest ih =>
    rw [insertName]
    split
    · simp
    · rw [List.mem_cons, ih, List.mem_cons]
      exact or_left_comm

private theorem mem_sorted {item : String} {names : List String} :
    item ∈ names.foldr insertName [] ↔ item ∈ names := by
  induction names with
  | nil => simp
  | cons first rest ih => rw [List.foldr_cons, mem_insertName, ih, List.mem_cons]

theorem nameIn_eq_some {directory : Location} {name : String} :
    nameIn directory location = some name ↔ location = directory ++ [name] := by
  rcases List.eq_nil_or_concat location with rfl | ⟨init, last, rfl⟩
  · simp [nameIn]
  · by_cases h : init = directory
    · subst h
      simp [nameIn]
    · have apart : init.concat last ≠ directory ++ [name] := by
        intro same
        rw [List.concat_eq_append] at same
        exact h (List.append_inj_left' same rfl)
      simp only [apart, iff_false]
      simp [nameIn, h]

/-- The names in a directory are those of the locations right below it where something stands. -/
theorem mem_names {directory : Location} {name : String} :
    name ∈ fs.names directory ↔ ∃ entry, fs.get? (directory ++ [name]) = some entry := by
  have listed : name ∈ fs.names directory ↔
      ∃ entry, (directory ++ [name], entry) ∈ fs.entries := by
    rw [names, mem_sorted, List.mem_filterMap]
    constructor
    · rintro ⟨⟨location, entry⟩, h, same⟩
      obtain rfl := nameIn_eq_some.mp same
      exact ⟨entry, h⟩
    · rintro ⟨entry, h⟩
      exact ⟨_, h, nameIn_eq_some.mpr rfl⟩
  rw [listed, get?, if_neg (by simp)]
  constructor
  · rintro ⟨entry, h⟩
    cases found : fs.entries.lookup (directory ++ [name]) with
    | some other => exact ⟨other, rfl⟩
    | none => simpa using List.lookup_eq_none_iff.mp found _ h
  · rintro ⟨entry, h⟩
    obtain ⟨front, rest, same, -⟩ := List.lookup_eq_some_iff.mp h
    exact ⟨entry, same ▸ by simp⟩

/-- An entry that takes the place of another, or that is put elsewhere, leaves the names in a
directory as they are. -/
theorem names_put {directory : Location}
    (old : ∀ name, location = directory ++ [name] → fs.get? location ≠ none) :
    (fs.put location entry).names directory = fs.names directory := by
  have replaced : nameIn directory location = none ∨ fs.entries.lookup location ≠ none := by
    cases placed : nameIn directory location with
    | none => exact .inl rfl
    | some name =>
      have same := nameIn_eq_some.mp placed
      have found := old name same
      rw [get?, if_neg (by simp [same])] at found
      exact .inr found
  have listed : ∀ entries : List (Location × Entry),
      nameIn directory location = none ∨ entries.lookup location ≠ none →
      (putEntry location entry entries).filterMap (fun e => nameIn directory e.1) =
        entries.filterMap fun e => nameIn directory e.1 := by
    intro entries
    induction entries with
    | nil =>
      rintro (none | found)
      · rw [putEntry, List.filterMap_cons, none]
      · exact absurd rfl found
    | cons first rest ih =>
      obtain ⟨place, other⟩ := first
      intro replaced
      rw [putEntry]
      by_cases same : place = location
      · rw [if_pos same, List.filterMap_cons, List.filterMap_cons, same]
      · have differs : (location == place) = false := beq_eq_false_iff_ne.mpr (Ne.symm same)
        rw [List.lookup_cons, differs] at replaced
        rw [if_neg same, List.filterMap_cons, List.filterMap_cons, ih replaced]
  rw [names, names, put, listed _ replaced]

/-- Every entry has a name of its own and stands in a directory. -/
structure IsTree (fs : FileSystem) : Prop where
  parent : ∀ directory name entry, fs.get? (directory ++ [name]) = some entry →
    fs.get? directory = some .directory
  normal : ∀ directory name entry, fs.get? (directory ++ [name]) = some entry →
    Path.isNormal name = true

/-- A tree stays one when an entry is put into a directory, unless a directory is lost by it. -/
theorem IsTree.put (tree : fs.IsTree) {directory : Location} {name : String}
    (here : fs.get? directory = some .directory) (normal : Path.isNormal name = true)
    (kept : fs.get? (directory ++ [name]) = some .directory → entry = .directory) :
    (fs.put (directory ++ [name]) entry).IsTree := by
  have named : directory ++ [name] ≠ [] := by simp
  have parent : ∀ place, fs.get? place = some .directory →
      (fs.put (directory ++ [name]) entry).get? place = some .directory := by
    intro place found
    by_cases same : place = directory ++ [name]
    · subst same
      rw [get?_put_self named, kept found]
    · rw [get?_put_of_ne same, found]
  constructor
  · intro place other entry' found
    refine parent place ?_
    by_cases same : place ++ [other] = directory ++ [name]
    · rw [List.append_inj_left' same rfl, here]
    · rw [get?_put_of_ne same] at found
      exact tree.parent place other entry' found
  · intro place other entry' found
    by_cases same : place ++ [other] = directory ++ [name]
    · obtain rfl : other = name := by simpa using List.append_inj_right' same rfl
      exact normal
    · rw [get?_put_of_ne same] at found
      exact tree.normal place other entry' found

theorem mem_of_get?_concat {directory : Location} {name : String}
    (h : fs.get? (directory ++ [name]) = some entry) :
    (directory ++ [name], entry) ∈ fs.entries := by
  rw [get?, if_neg (by simp)] at h
  obtain ⟨front, rest, same, -⟩ := List.lookup_eq_some_iff.mp h
  exact same ▸ by simp

theorem IsTree.of_entries (h : ∀ e ∈ fs.entries,
    fs.hasDirectory e.1.dropLast = true ∧ e.1.getLast?.all Path.isNormal = true) : fs.IsTree := by
  constructor
  · intro directory name entry found
    have here := (h _ (mem_of_get?_concat found)).1
    rw [List.dropLast_concat] at here
    exact hasDirectory_iff.mp here
  · intro directory name entry found
    have normal := (h _ (mem_of_get?_concat found)).2
    rwa [List.getLast?_concat] at normal

/-- A location that stays as it was, that becomes a directory, or that becomes a file. -/
inductive Change (directories files : Location → Prop) (location : Location) :
    Option Entry → Option Entry → Prop
  | same {entry : Option Entry} : Change directories files location entry entry
  | made : directories location → Change directories files location none (some .directory)
  | created {contents : ByteArray} {mode : Bool} : files location →
      Change directories files location none (some (.file contents mode))
  | overwritten {old contents : ByteArray} {oldMode mode : Bool} : files location →
      Change directories files location (some (.file old oldMode)) (some (.file contents mode))

/-- A change of the tree that makes directories and writes files in the given places only. -/
structure Changes (directories files : Location → Prop) (before after : FileSystem) : Prop where
  workingDirectory : after.workingDirectory = before.workingDirectory
  entry : ∀ location, Change directories files location (before.get? location) (after.get? location)

namespace Changes

variable {directories directories' files files' : Location → Prop}

theorem refl : Changes directories files fs fs := ⟨rfl, fun _ => .same⟩

theorem trans (first : Changes directories files before middle)
    (second : Changes directories files middle after) : Changes directories files before after := by
  refine ⟨second.workingDirectory.trans first.workingDirectory, fun location => ?_⟩
  have h := first.entry location
  have h' := second.entry location
  generalize before.get? location = old at h
  generalize middle.get? location = mid at h h'
  generalize after.get? location = new at h'
  cases h with
  | same => exact h'
  | made allowed =>
    cases h'
    exact .made allowed
  | created allowed => cases h' <;> exact .created allowed
  | overwritten allowed => cases h' <;> exact .overwritten allowed

theorem mono (h : Changes directories files before after)
    (hd : ∀ location, before.get? location = none → directories location → directories' location)
    (hf : ∀ location, files location → files' location) :
    Changes directories' files' before after := by
  refine ⟨h.workingDirectory, fun location => ?_⟩
  have change := h.entry location
  have hd := hd location
  generalize before.get? location = old at change hd
  generalize after.get? location = new at change
  cases change with
  | same => exact .same
  | made allowed => exact .made (hd rfl allowed)
  | created allowed => exact .created (hf location allowed)
  | overwritten allowed => exact .overwritten (hf location allowed)

theorem directory (h : Changes directories files before after)
    (found : before.get? location = some .directory) : after.get? location = some .directory := by
  have change := h.entry location
  rw [found] at change
  generalize after.get? location = new at change ⊢
  cases change
  rfl

theorem link {target : Path} (h : Changes directories files before after)
    (found : before.get? location = some (.link target)) :
    after.get? location = some (.link target) := by
  have change := h.entry location
  rw [found] at change
  generalize after.get? location = new at change ⊢
  cases change
  rfl

theorem file {contents : ByteArray} {mode : Bool} (h : Changes directories files before after)
    (found : before.get? location = some (.file contents mode)) :
    ∃ contents' mode', after.get? location = some (.file contents' mode') := by
  have change := h.entry location
  rw [found] at change
  generalize after.get? location = new at change ⊢
  cases change with
  | same => exact ⟨contents, mode, rfl⟩
  | overwritten => exact ⟨_, _, rfl⟩

theorem unchanged (h : Changes directories files before after) (hd : ¬ directories location)
    (hf : ¬ files location) : after.get? location = before.get? location := by
  have change := h.entry location
  generalize before.get? location = old at change ⊢
  generalize after.get? location = new at change ⊢
  cases change with
  | same => rfl
  | made allowed => exact absurd allowed hd
  | created allowed | overwritten allowed => exact absurd allowed hf

theorem kept (h : Changes directories files before after) (hf : ¬ files location)
    (found : before.get? location = some entry) : after.get? location = some entry := by
  have change := h.entry location
  rw [found] at change
  generalize after.get? location = new at change ⊢
  cases change with
  | same => rfl
  | overwritten allowed => exact absurd allowed hf

/-- Where no file is written, all is as it was, but that a directory may stand where nothing
stood. -/
theorem unwritten (h : Changes directories files before after) (hf : ¬ files location) :
    after.get? location = before.get? location ∨
      before.get? location = none ∧ after.get? location = some .directory := by
  have change := h.entry location
  generalize before.get? location = old at change ⊢
  generalize after.get? location = new at change ⊢
  cases change with
  | same => exact .inl rfl
  | made => exact .inr ⟨rfl, rfl⟩
  | created allowed | overwritten allowed => exact absurd allowed hf

theorem link_before {target : Path} (h : Changes directories files before after)
    (found : after.get? location = some (.link target)) :
    before.get? location = some (.link target) := by
  have change := h.entry location
  rw [found] at change
  generalize before.get? location = old at change ⊢
  cases change
  rfl

theorem of_put (change : Change directories files location (fs.get? location) (some entry)) :
    Changes directories files fs (fs.put location entry) := by
  refine ⟨rfl, fun other => ?_⟩
  by_cases same : other = location
  · subst same
    by_cases root : other = []
    · subst root
      exact .same
    · rw [get?_put_self root]
      exact change
  · rw [get?_put_of_ne same]
    exact .same

end Changes

end UiScaffold.FileSystem
