import UiScaffold.Proofs.FileSystem.Growth
import UiScaffold.Proofs.TwoRuns
import UiScaffold.Render.Step

/-!
Trees that are the same but for what some files hold.

No path looks into a file on its way. So in trees that differ in the contents of files only, paths
lead to the same places, and steps that make directories and write files do the same. What differs
after such steps did so before, or it was just written.
-/

set_option autoImplicit false
set_option relaxedAutoImplicit false

namespace UiScaffold

open Effect (Together)

/-- The same entry, or files with the same mode. -/
inductive Entry.Like : Option Entry → Option Entry → Prop
  | same {entry : Option Entry} : Like entry entry
  | file {contents contents' : ByteArray} {mode : Bool} :
      Like (some (.file contents mode)) (some (.file contents' mode))

open Entry (Like)

/-- The same tree, but for the contents of files that paths of a kind lead to. -/
structure FileSystem.SameBut (paths : Path → Prop) (fs fs' : FileSystem) : Prop where
  workingDirectory : fs.workingDirectory = fs'.workingDirectory
  like : ∀ location, Like (fs.get? location) (fs'.get? location)
  elsewhere : ∀ location, fs.get? location ≠ fs'.get? location →
    ∃ path, paths path ∧ fs.locate path = .ok location

namespace FileSystem.SameBut

variable {paths : Path → Prop} {fs fs' : FileSystem} {path : Path} {location : Location}
  {followLast : Bool}

theorem refl (fs : FileSystem) : SameBut paths fs fs :=
  ⟨rfl, fun _ => .same, fun _ differs => absurd rfl differs⟩

theorem mono {paths' : Path → Prop} (h : SameBut paths fs fs')
    (more : ∀ path, paths path → paths' path) : SameBut paths' fs fs' := by
  refine ⟨h.workingDirectory, h.like, fun location differs => ?_⟩
  obtain ⟨path, kind, located⟩ := h.elsewhere location differs
  exact ⟨path, more path kind, located⟩

private theorem hasDirectory_eq (h : SameBut paths fs fs') (location : Location) :
    fs.hasDirectory location = fs'.hasDirectory location := by
  have like := h.like location
  unfold hasDirectory
  generalize fs.get? location = old at like
  generalize fs'.get? location = new at like
  cases like <;> rfl

private theorem advance_eq (h : SameBut paths fs fs') (steps : List PathStep) :
    fs.advance followLast location steps = fs'.advance followLast location steps := by
  induction steps generalizing location with
  | nil => rfl
  | cons step rest ih =>
    cases step with
    | stay => rw [advance, advance, h.hasDirectory_eq, ih]
    | up => rw [advance, advance, h.hasDirectory_eq, ih]
    | enter name =>
      have like := h.like (location ++ [name])
      simp only [advance, h.hasDirectory_eq, ih]
      generalize fs.get? (location ++ [name]) = old at like ⊢
      generalize fs'.get? (location ++ [name]) = new at like ⊢
      cases like <;> rfl

private theorem follow_eq (h : SameBut paths fs fs') (links : Nat) (steps : List PathStep) :
    fs.follow followLast links location steps = fs'.follow followLast links location steps := by
  induction links generalizing location steps with
  | zero => rw [follow, follow, h.advance_eq]
  | succ links ih =>
    rw [follow, follow, h.advance_eq]
    simp only [ih]

private theorem resolve_eq (h : SameBut paths fs fs') :
    fs.resolve followLast path = fs'.resolve followLast path := by
  rw [resolve, resolve, h.workingDirectory, h.follow_eq]

private theorem locate_eq (h : SameBut paths fs fs') : fs.locate path = fs'.locate path := by
  rw [locate, locate, h.resolve_eq]

private theorem isDirectory_eq (h : SameBut paths fs fs') :
    fs.isDirectory path = fs'.isDirectory path := by
  unfold isDirectory status
  rw [h.locate_eq]
  cases fs'.locate path with
  | error e => rfl
  | ok location =>
    have like := h.like location
    simp only [bind, Except.bind]
    generalize fs.get? location = old at like ⊢
    generalize fs'.get? location = new at like ⊢
    cases like with
    | same => rfl
    | file => rfl

private theorem put {entry entry' : Entry} (h : SameBut paths fs fs')
    (grows : fs.Grows (fs.put location entry)) (filled : location ≠ [])
    (like : Like (some entry) (some entry'))
    (here : entry ≠ entry' →
      ∃ path, paths path ∧ (fs.put location entry).locate path = .ok location) :
    SameBut paths (fs.put location entry) (fs'.put location entry') := by
  refine ⟨h.workingDirectory, fun other => ?_, fun other differs => ?_⟩
  · by_cases same : other = location
    · subst same
      rwa [get?_put_self filled, get?_put_self filled]
    · rw [get?_put_of_ne same, get?_put_of_ne same]
      exact h.like other
  · by_cases same : other = location
    · subst same
      rw [get?_put_self filled, get?_put_self filled] at differs
      exact here fun equal => differs (congrArg some equal)
    · rw [get?_put_of_ne same, get?_put_of_ne same] at differs
      -- It differed before, and the path that led there still does.
      obtain ⟨path, kind, located⟩ := h.elsewhere other differs
      exact ⟨path, kind, locate_of_changes grows located⟩

end FileSystem.SameBut

open FileSystem (SameBut)

namespace FileAction

variable {paths : Path → Prop} {fs fs' : FileSystem}

private theorem makeDirectory_together (path : Path) (h : SameBut paths fs fs') :
    Together Eq (SameBut paths) (makeDirectory path fs) (makeDirectory path fs') := by
  unfold makeDirectory
  cases path.refusal? with
  | some e => exact .error h
  | none =>
    simp only [← h.workingDirectory, ← h.follow_eq]
    cases found : fs.follow false FileSystem.maxLinks (FileSystem.base fs.workingDirectory path)
        (withoutSlash path).steps with
    | error e => exact .error h
    | ok target =>
      cases target with
      | existing location => exact .error h
      | vacant directory name =>
        obtain ⟨n, -, route⟩ := FileSystem.follow_eq_ok.mp found
        have grows := (FileSystem.Adds.directory .nothing route.get?_vacant.2).grows
        exact .ok rfl (h.put grows (by simp) .same fun differs => absurd rfl differs)

private theorem ensureDirectory_together (path : Path) (h : SameBut paths fs fs') :
    Together Eq (SameBut paths) (ensureDirectory path fs) (ensureDirectory path fs') := by
  have made := makeDirectory_together path h
  unfold ensureDirectory
  generalize makeDirectory path fs = result at made
  generalize makeDirectory path fs' = result' at made
  cases made with
  | ok gives leaves => exact .ok gives leaves
  | @error e s t leaves =>
    cases e with
    | alreadyExists =>
      simp only [leaves.isDirectory_eq]
      split
      · exact .ok rfl leaves
      · exact .error leaves
    | _ => exact .error leaves

private theorem climb_together (passed climbs : List Path) (h : SameBut paths fs fs') :
    Together Eq (SameBut paths) (climb passed climbs fs) (climb passed climbs fs') := by
  induction climbs generalizing passed fs fs' with
  | nil => exact .ok rfl h
  | cons path rest ih =>
    rw [climb]
    split
    · exact .ok rfl h
    · have made := ensureDirectory_together path h
      simp only
      generalize ensureDirectory path fs = result at made
      generalize ensureDirectory path fs' = result' at made
      cases made with
      | ok gives leaves => exact .ok rfl leaves
      | @error e s t leaves =>
        cases e with
        | notFound => exact ih (path :: passed) leaves
        | _ => exact .error leaves

private theorem makeDirectories_together (path : Path) (h : SameBut paths fs fs') :
    Together Eq (SameBut paths) (makeDirectories path fs) (makeDirectories path fs') := by
  refine (climb_together [] path.ancestors h).bind ?_
  rintro missing _ s t rfl related
  refine .forM (P := Eq) (List.forall₂_same.mpr fun _ _ => rfl) ?_ related
  rintro path _ s t rfl related
  exact ensureDirectory_together path related

private theorem store_together {path : Path} {contents contents' : ByteArray} {mode : Bool}
    (h : SameBut paths fs fs') (differ : contents ≠ contents' → paths path) :
    Together Eq (SameBut paths) (store path contents mode fs) (store path contents' mode fs') := by
  have write {target : Target} (mode : Bool) (found : fs.resolve true path = .ok target)
      (free : fs.Writable target.location) :
      SameBut paths (fs.put target.location (.file contents mode))
        (fs'.put target.location (.file contents' mode)) := by
    have filled : target.location ≠ [] := by
      intro root
      exact free.ne_directory (root ▸ rfl)
    refine h.put (FileSystem.Adds.file .nothing free).grows filled .file fun other => ?_
    refine ⟨path, differ ?_, locate_put found free⟩
    rintro rfl
    exact other rfl
  unfold store
  rw [← h.resolve_eq]
  cases found : fs.resolve true path with
  | error e => exact .error h
  | ok target =>
    cases target with
    | vacant directory name =>
      obtain ⟨-, n, -, route⟩ := FileSystem.resolve_eq_ok.mp found
      exact .ok rfl (write mode found (.inl route.get?_vacant.2))
    | existing location =>
      -- A file is kept with its mode, which is the same in both trees; nothing else is written
      -- over.
      have written (old : ByteArray) (mode : Bool)
          (there : fs.get? location = some (.file old mode)) :=
        write mode found (.inr ⟨old, mode, there⟩)
      have like := h.like location
      simp only
      generalize fs.get? location = old at like written ⊢
      generalize fs'.get? location = new at like ⊢
      cases like with
      | same =>
        cases old with
        | none => exact .error h
        | some entry =>
          cases entry with
          | directory => exact .error h
          | link target => exact .error h
          | file old mode => exact .ok rfl (written old mode rfl)
      | @file old _ mode => exact .ok rfl (written old mode rfl)

end FileAction

namespace RenderStep

variable {paths : Path → Prop} {fs fs' : FileSystem}

theorem ensureDirectory_together (path : Path) (h : SameBut paths fs fs') :
    Together Eq (SameBut paths) (ensureDirectory path fs) (ensureDirectory path fs') :=
  (FileAction.makeDirectories_together path h).adaptExcept _

/-- Two texts may be written in one place, if paths of the kind lead there. -/
theorem write_together {path : Path} {text text' : String} (h : SameBut paths fs fs')
    (differ : text ≠ text' → paths path) :
    Together Eq (SameBut paths) ((write path text).run fs) ((write path text').run fs') := by
  have parent : Together Eq (SameBut paths) (makeParent path fs) (makeParent path fs') := by
    unfold makeParent
    cases path.parent with
    | none => exact .ok rfl h
    | some parent => exact ensureDirectory_together parent h
  refine parent.bind fun _ _ s t _ related => ?_
  refine (FileAction.store_together related fun other => differ ?_).adaptExcept _
  rintro rfl
  exact other rfl

end RenderStep

end UiScaffold
