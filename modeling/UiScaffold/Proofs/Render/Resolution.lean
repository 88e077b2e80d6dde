import UiScaffold.Proofs.FileSystem.Listing
import UiScaffold.Proofs.FileSystem.Trailing
import UiScaffold.Proofs.Render.Naming

/-!
The directories of template sets.

The sets below a root are listed by reading the root, and are found by joining a name to it. Both
agree: a listed name leads to its own entry of the root, and a name that leads to a directory is a
listed one, with nothing behind it but slashes and dots. All other names are answered with the
listing.
-/

set_option autoImplicit false
set_option relaxedAutoImplicit false

namespace UiScaffold

namespace Path

variable {path : Path} {name : String}

private theorem isNormal_iff : isNormal name = true ↔ name ≠ "" ∧ name ≠ "." ∧ name ≠ ".." := by
  simp only [isNormal, Bool.and_eq_true, bne_iff_ne, and_assoc]

private theorem isIdle_iff : isIdle name = true ↔ name = "" ∨ name = "." := by
  simp only [isIdle, Bool.or_eq_true, beq_iff_eq]

private theorem isSome_singleName? : path.singleName?.isSome = true ↔ ∃ name idle,
    path.pieces = name :: idle ∧ isNormal name = true ∧ ∀ piece ∈ idle, isIdle piece = true := by
  unfold singleName?
  cases path.pieces with
  | nil => simp
  | cons first rest =>
    dsimp only
    by_cases single : (isNormal first && rest.all isIdle) = true
    · rw [if_pos single]
      rw [Bool.and_eq_true, List.all_eq_true] at single
      exact iff_of_true rfl ⟨first, rest, rfl, single⟩
    · rw [if_neg single]
      refine iff_of_false Bool.false_ne_true ?_
      rintro ⟨_, _, ⟨⟩, normal, idle⟩
      exact single (Bool.and_eq_true _ _ ▸ ⟨normal, List.all_eq_true.mpr idle⟩)

private theorem join_of_isNormal {other : Path} {rest : List String}
    (pieces : other.pieces = name :: rest)
    (normal : isNormal name = true) : path.join other = path.append (name :: rest) := by
  obtain ⟨_⟩ := other
  obtain rfl : _ = _ := pieces
  have relative : isAbsolute ⟨name :: rest⟩ ≠ true := by
    intro absolute
    exact (isNormal_iff.mp normal).1 (isAbsolute_cons.mp absolute).1
  rw [join, if_neg relative]

end Path

namespace TemplateSet

variable {fs : FileSystem} {root directory : Path} {site : Location} {name : String}

/-- What is found for a name below a root. The name is one plain step, but for slashes and dots
behind it; the step is listed, and names an entry of the root, which is the directory that is found
or a link to it. -/
structure Found (fs : FileSystem) (root : Path) (site : Location) (name : String) (directory : Path)
    (step : String) : Prop where
  written : ∃ idle, Text.split '/' name = step :: idle ∧ ∀ piece ∈ idle, piece = "" ∨ piece = "."
  normal : step ≠ "" ∧ step ≠ "." ∧ step ≠ ".." ∧ '/' ∉ step.toList
  nulFree : '\x00' ∉ name.toList
  listed : step ∈ available fs root
  isDirectory : fs.isDirectory directory = true
  same : fs.locate directory = fs.locate (root.child step)
  entry : fs.get? (site ++ [step]) = some .directory ∧ fs.locate directory = .ok (site ++ [step]) ∨
    ∃ target, fs.get? (site ++ [step]) = some (.link target)

/-- The listing of a root and the names that are found below it. -/
structure Agree (fs : FileSystem) (root : Path) (site : Location) : Prop where
  /-- The listing is sorted by bytes, without repetitions. -/
  increasing : (available fs root).Pairwise fun first second => Text.bytes first < Text.bytes second
  listed : ∀ name ∈ available fs root, resolve fs root name = .ok (root.child name) ∧
    Found fs root site name (root.child name) name
  found : ∀ name directory, resolve fs root name = .ok directory →
    ∃ step, Found fs root site name directory step
  refused : ∀ name e, resolve fs root name = .error e →
    e = .templateNotFound name root (available fs root) ∧
    e.message = "Template `" ++ name ++ "` not found in " ++ root.text ++
      ". Available templates: " ++
      if available fs root = [] then "(none)" else ", ".intercalate (available fs root)

private theorem resolve_inv (h : resolve fs root name = .ok directory) : ∃ step idle,
    Text.split '/' name = step :: idle ∧ Path.isNormal step = true ∧
      (∀ piece ∈ idle, Path.isIdle piece = true) ∧ directory = root.append (step :: idle) ∧
      ∃ place, fs.locate directory = .ok place ∧ fs.get? place = some .directory := by
  obtain ⟨same, single, here⟩ := resolve_eq_ok.mp h
  obtain ⟨step, idle, pieces, normal, stays⟩ := Path.isSome_singleName?.mp single
  exact ⟨step, idle, pieces, normal, stays, same.trans (Path.join_of_isNormal pieces normal),
    FileSystem.isDirectory_eq_true.mp here⟩

private theorem exists_site {names : List String} (readable : fs.list root = .ok names) :
    ∃ site, fs.locate root = .ok site ∧ names = fs.names site := by
  obtain ⟨site, located, listed⟩ := except_bind_eq_ok.mp readable
  cases listed
  exact ⟨site, (FileSystem.locateDirectory_eq_ok.mp located).1, rfl⟩

section Readable

variable (readable : fs.list root = .ok (fs.names site))
include readable

private theorem mem_available : name ∈ available fs root ↔
    (∃ entry, fs.get? (site ++ [name]) = some entry) ∧ fs.isDirectory (root.child name) = true := by
  rw [available, readable, List.mem_filter, FileSystem.mem_names]

private theorem resolve_of_listed (tree : fs.IsTree) (named : fs.IsNamed)
    (listed : name ∈ available fs root) : resolve fs root name = .ok (root.child name) := by
  obtain ⟨⟨entry, there⟩, here⟩ := (mem_available readable).mp listed
  have normal := tree.normal site name entry there
  have pieces : (Path.ofText name).pieces = [name] :=
    Text.split_of_notMem (named.unslashed_of_get? there)
  have joined : root.join (.ofText name) = root.child name := Path.join_of_isNormal pieces normal
  refine resolve_eq_ok.mpr ⟨joined.symm, ?_, here⟩
  exact Path.isSome_singleName?.mpr ⟨name, [], pieces, normal, List.forall_mem_nil _⟩

variable (located : fs.locate root = .ok site)
include located

private theorem found_of_resolve (named : fs.IsNamed) (h : resolve fs root name = .ok directory) :
    ∃ step, Found fs root site name directory step := by
  obtain ⟨step, idle, pieces, normal, stays, joined, place, found, stands⟩ := resolve_inv h
  -- The pieces behind the step only make the path longer: the step alone is found where it is.
  have alone : fs.locate (root.child step) = .ok place :=
    FileSystem.locate_trailing normal stays (joined ▸ found)
  obtain ⟨entry, there, straight⟩ :=
    FileSystem.child_of_locate normal (FileSystem.Leads.of_locate located) alone
  have directory_alone : fs.isDirectory (root.child step) = true :=
    FileSystem.isDirectory_eq_true.mpr ⟨place, alone, stands⟩
  have nulFree := FileSystem.nulFree_of_locate (List.cons_ne_nil step idle) (joined ▸ found)
  have spelled : (Path.mk (step :: idle)).text = name := by
    rw [← pieces]
    exact Path.text_ofText name
  obtain ⟨filled, dot, dots⟩ := Path.isNormal_iff.mp normal
  refine ⟨step, {
    written := ⟨idle, pieces, fun piece listed => Path.isIdle_iff.mp (stays piece listed)⟩
    normal := ⟨filled, dot, dots, named.unslashed_of_get? there⟩
    nulFree := spelled ▸ nulFree
    listed := (mem_available readable).mpr ⟨⟨entry, there⟩, directory_alone⟩
    isDirectory := FileSystem.isDirectory_eq_true.mpr ⟨place, found, stands⟩
    same := found.trans alone.symm
    entry := ?_ }⟩
  cases entry with
  | link target => exact .inr ⟨target, there⟩
  | directory =>
    obtain rfl := straight (by simp)
    exact .inl ⟨there, found⟩
  | file contents mode =>
    obtain rfl := straight (by simp)
    rw [there] at stands
    cases stands

end Readable

/-- Below a root that can be read, the names that are listed and the names that are found agree. -/
theorem available_agrees_with_resolve {names : List String} (tree : fs.IsTree) (named : fs.IsNamed)
    (readable : fs.list root = .ok names) :
    ∃ site, fs.locate root = .ok site ∧ Agree fs root site := by
  obtain ⟨site, located, rfl⟩ := exists_site readable
  refine ⟨site, located, ?_, ?_, ?_, ?_⟩
  · rw [available, readable]
    exact (named.bytes_increase site).filter _
  · intro name listed
    have resolved := resolve_of_listed readable tree named listed
    obtain ⟨step, found⟩ := found_of_resolve readable located named resolved
    obtain ⟨idle, pieces, -⟩ := found.written
    obtain ⟨⟨entry, there⟩, -⟩ := (mem_available readable).mp listed
    rw [Text.split_of_notMem (named.unslashed_of_get? there)] at pieces
    cases pieces
    exact ⟨resolved, found⟩
  · exact fun name directory resolved => found_of_resolve readable located named resolved
  · intro name e refused
    have reason : e = .templateNotFound name root (available fs root) := by
      rw [resolve] at refused
      split at refused <;> cases refused
      rfl
    exact ⟨reason, reason ▸ rfl⟩

/-- A root with two sets, a file, and a link to one of the sets. -/
theorem available_agrees_with_resolve_of_linked_set :
    let fs := sampleFiles [(["w", "templates", "base"], .directory),
      (["w", "templates", "notes"], .file "a note".toUTF8 false),
      (["w", "templates", "twin"], .link ⟨["mini"]⟩)]
    let root : Path := ⟨["templates"]⟩
    fs.IsTree ∧ fs.IsNamed ∧ available fs root = ["base", "mini", "twin"] ∧
      resolve fs root "twin/./" = .ok ⟨["templates", "twin", ".", ""]⟩ ∧
      resolve fs root "mini/.." =
        .error (.templateNotFound "mini/.." root ["base", "mini", "twin"]) ∧
      ∃ site, fs.locate root = .ok site ∧ Agree fs root site := by
  intro fs root
  have tree : fs.IsTree := .of_entries (by decide)
  have named : fs.IsNamed := ⟨by decide, by decide⟩
  have readable : fs.list root = .ok ["base", "mini", "notes", "twin"] := by decide +kernel
  exact ⟨tree, named, by decide +kernel, by decide +kernel, by decide +kernel,
    available_agrees_with_resolve tree named readable⟩

end TemplateSet

end UiScaffold
