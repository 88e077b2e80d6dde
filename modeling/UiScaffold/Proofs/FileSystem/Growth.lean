import UiScaffold.Proofs.FileSystem.Directories

/-!
Operations that take nothing away.

Making directories, writing and copying put entries where nothing stood, and files in the place of
files, whether they succeed or not. So they leave every directory, every link and every file where
it is.
-/

set_option autoImplicit false
set_option relaxedAutoImplicit false

namespace UiScaffold

open Effect (Keeps)
open FileSystem (Changes)

def FileSystem.Grows (before after : FileSystem) : Prop :=
  Changes (fun _ => True) (fun _ => True) before after

/-- What comes of a tree when directories are put where nothing stood, and files where nothing or a
file stood. -/
inductive FileSystem.Adds (before : FileSystem) : FileSystem → Prop
  | nothing : Adds before before
  | directory {fs : FileSystem} {location : Location} :
      Adds before fs → fs.get? location = none → Adds before (fs.put location .directory)
  | file {fs : FileSystem} {location : Location} {contents : ByteArray} {mode : Bool} :
      Adds before fs →
      (fs.get? location = none ∨ ∃ old oldMode, fs.get? location = some (.file old oldMode)) →
      Adds before (fs.put location (.file contents mode))

def FileSystem.Writable (fs : FileSystem) (location : Location) : Prop :=
  fs.get? location = none ∨ ∃ contents mode, fs.get? location = some (.file contents mode)

/-- The mode of a file that is written: that of a file that stood there, or a new one. -/
def Entry.modeOr (new : Bool) : Option Entry → Bool
  | some (.file _ mode) => mode
  | _ => new

namespace FileSystem

variable {before middle after : FileSystem} {directories files : Location → Prop}

namespace Writable

variable {fs : FileSystem} {location : Location} {entry : Entry}

theorem ne_directory (free : fs.Writable location) : fs.get? location ≠ some .directory := by
  rcases free with vacant | ⟨contents, mode, there⟩
  · simp [vacant]
  · simp [there]

theorem get?_put (free : fs.Writable location) :
    (fs.put location entry).get? location = some entry := by
  refine get?_put_self fun root => free.ne_directory ?_
  rw [root, get?_nil]

end Writable

theorem Grows.of_changes (h : Changes directories files before after) : Grows before after :=
  h.mono (fun _ _ _ => trivial) fun _ _ => trivial

/-- Entries of which some are replaced, in places of a kind. An entry may hide others for the same
location, so not every list in which the same is found has come of replacing. -/
inductive Replaces (places : Location → Prop) (before : List (Location × Entry)) :
    List (Location × Entry) → Prop
  | nothing : Replaces places before before
  | entry {entries : List (Location × Entry)} {location : Location} {entry : Entry} :
      Replaces places before entries → places location → entries.lookup location ≠ none →
      Replaces places before (putEntry location entry entries)

namespace Replaces

variable {places : Location → Prop} {place : Location} {entry : Entry}
  {entries rest : List (Location × Entry)}

private theorem of_nil (h : Replaces places [] entries) : entries = [] := by
  induction h with
  | nothing => rfl
  | entry _ _ there ih =>
    subst ih
    exact absurd rfl there

private theorem of_cons (h : Replaces places ((place, entry) :: rest) entries) :
    ∃ entry' rest', entries = (place, entry') :: rest' ∧ (¬ places place → entry' = entry) ∧
      Replaces (fun location => places location ∧ location ≠ place) rest rest' := by
  induction h with
  | nothing => exact ⟨entry, rest, rfl, fun _ => rfl, .nothing⟩
  | @entry _ location new _ allowed there ih =>
    obtain ⟨entry', rest', rfl, kept, more⟩ := ih
    rw [putEntry]
    by_cases first : place = location
    · subst first
      exact ⟨new, rest', if_pos rfl, fun not => absurd allowed not, more⟩
    · rw [List.lookup_cons, beq_eq_false_iff_ne.mpr (Ne.symm first)] at there
      exact ⟨entry', _, if_neg first, kept, .entry more ⟨allowed, Ne.symm first⟩ there⟩

private theorem eq (h : Replaces places rest entries)
    (same : ∀ location, places location → entries.lookup location = rest.lookup location) :
    entries = rest := by
  induction rest generalizing places entries with
  | nil => exact h.of_nil
  | cons first rest ih =>
    obtain ⟨place, entry⟩ := first
    obtain ⟨entry', rest', rfl, kept, more⟩ := h.of_cons
    have first : entry' = entry := by
      by_cases allowed : places place
      · simpa using same place allowed
      · exact kept allowed
    rw [first, ih more fun location ⟨allowed, away⟩ => ?_]
    simpa [List.lookup_cons, beq_eq_false_iff_ne.mpr away] using same location allowed

end Replaces

namespace Adds

theorem refl (fs : FileSystem) : Adds fs fs := .nothing

theorem trans (before middle after : FileSystem) (first : Adds before middle)
    (second : Adds middle after) : Adds before after := by
  induction second with
  | nothing => exact first
  | directory _ vacant ih => exact .directory ih vacant
  | file _ free ih => exact .file ih free

theorem grows (h : Adds before after) : Grows before after := by
  induction h with
  | nothing => exact Changes.refl
  | directory _ vacant ih =>
    exact Changes.trans ih (.of_put (vacant ▸ .made trivial))
  | file _ free ih =>
    refine Changes.trans ih (.of_put ?_)
    rcases free with vacant | ⟨old, oldMode, there⟩
    · exact vacant ▸ .created trivial
    · exact there ▸ .overwritten trivial

section Invariant

variable {P : Location → Prop} {motive : FileSystem → Prop}
  (step : ∀ fs location entry, location ≠ [] → (P location → fs.get? location ≠ none) →
    motive fs → motive (fs.put location entry))
include step

private theorem invariant_put {fs : FileSystem} {location : Location} {entry : Entry}
    (since : Adds before fs) (named : location ≠ [])
    (ih : (∀ other, P other → before.get? other = none → fs.get? other = none) → motive fs)
    (old : ∀ other, P other → before.get? other = none →
      (fs.put location entry).get? other = none) : motive (fs.put location entry) := by
  have away (other : Location) (kind : P other) (none : before.get? other = none) :
      other ≠ location := by
    rintro rfl
    have there := old other kind none
    rw [get?_put_self named] at there
    cases there
  refine step fs location entry named (fun kind gone => ?_) (ih fun other kind none => ?_)
  · -- What stood in the place from the start still stands there.
    cases stood : before.get? location with
    | none => exact away location kind stood rfl
    | some entry' =>
      have change := since.grows.entry location
      rw [stood, gone] at change
      cases change
  · have there := old other kind none
    rwa [get?_put_of_ne (away other kind none)] at there

/-- What puts keep that replace something in the places of a kind, when none of these places was
filled on the way. -/
private theorem invariant (h : Adds before after)
    (old : ∀ location, P location → before.get? location = none → after.get? location = none)
    (start : motive before) : motive after := by
  have named {fs : FileSystem} {location : Location} (free : fs.Writable location) :
      location ≠ [] := by
    rintro rfl
    exact free.ne_directory get?_nil
  induction h with
  | nothing => exact start
  | directory since vacant ih => exact invariant_put step since (named (.inl vacant)) ih old
  | file since free ih => exact invariant_put step since (named free) ih old

end Invariant

/-- A directory to which no name is new keeps its list of names. -/
theorem names {directory : Location} (h : Adds before after)
    (old : ∀ name, before.get? (directory ++ [name]) = none →
      after.get? (directory ++ [name]) = none) :
    after.names directory = before.names directory := by
  refine invariant (P := fun location => ∃ name, location = directory ++ [name])
    (motive := fun fs => fs.names directory = before.names directory) ?_ h ?_ rfl
  · intro fs location entry _ stands same
    exact (names_put fun name placed => stands ⟨name, placed⟩).trans same
  · rintro location ⟨name, rfl⟩
    exact old name

/-- A tree in which all is found as before is the same, down to the order of its entries. -/
theorem eq_of_get? (h : Adds before after)
    (same : ∀ location, after.get? location = before.get? location) : after = before := by
  have replaced : Replaces (· ≠ []) before.entries after.entries := by
    refine invariant (P := fun _ => True)
      (motive := fun fs => Replaces (· ≠ []) before.entries fs.entries) ?_ h
      (fun location _ none => (same location).trans none) .nothing
    intro fs location entry named stands replaced
    have there := stands trivial
    rw [get?, if_neg named] at there
    exact .entry replaced named there
  have entries := replaced.eq fun location named => by
    simpa only [get?, if_neg named] using same location
  have working := h.grows.workingDirectory
  obtain ⟨entries', working'⟩ := after
  cases entries
  cases working
  rfl

end Adds

end FileSystem

open FileSystem (Adds)

namespace FileAction

variable {path : Path} {before after : FileSystem} {contents : ByteArray} {mode : Bool}
  {e : OsError}

private theorem ensureDirectory_adds : Keeps (ensureDirectory path) Adds := by
  constructor
  · intro before _ after h
    obtain ⟨-, ⟨directory, name, n, -, route, rfl⟩ | ⟨-, rfl⟩⟩ := ensureDirectory_cases h
    · exact .directory .nothing route.get?_vacant.2
    · exact .nothing
  · intro before e after h
    rw [ensureDirectory_error h]
    exact .nothing

private theorem climb_adds (passed paths : List Path) : Keeps (climb passed paths) Adds := by
  induction paths generalizing passed with
  | nil => exact .pure Adds.refl passed
  | cons path rest ih =>
    constructor
    · intro before missing after h
      rw [climb] at h
      split at h
      · cases h
        exact .nothing
      · simp only at h
        split at h
        · rename_i fs done
          cases h
          exact ensureDirectory_adds.ok _ _ _ done
        · rename_i fs refused
          exact Adds.trans _ _ _ (ensureDirectory_adds.error _ _ _ refused) ((ih _).ok _ _ _ h)
        · cases h
    · intro before e after h
      rw [climb_error h]
      exact .nothing

theorem makeDirectories_adds : Keeps (makeDirectories path) Adds := by
  unfold makeDirectories
  refine .bind Adds.trans (climb_adds _ _) fun missing => ?_
  exact .forM Adds.refl Adds.trans missing fun _ _ => ensureDirectory_adds

/-- A file is stored where nothing or a file stands, and keeps the mode of the file that stood
there. -/
theorem store_cases (h : store path contents mode before = .ok () after) :
    ∃ target, before.resolve true path = .ok target ∧
      before.Writable target.location ∧
      after = before.put target.location
        (.file contents (Entry.modeOr mode (before.get? target.location))) := by
  unfold store at h
  cases found : before.resolve true path with
  | error e => simp [found] at h
  | ok target =>
    cases target with
    | vacant directory name =>
      obtain ⟨-, n, -, route⟩ := FileSystem.resolve_eq_ok.mp found
      have vacant := route.get?_vacant.2
      simp only [found] at h
      obtain rfl := (EStateM.Result.ok.inj h).2
      refine ⟨_, rfl, .inl vacant, ?_⟩
      rw [Target.location, vacant]
      rfl
    | existing location =>
      simp only [found] at h
      split at h
      · rename_i old oldMode there
        obtain rfl := (EStateM.Result.ok.inj h).2
        refine ⟨_, rfl, .inr ⟨old, oldMode, there⟩, ?_⟩
        rw [Target.location, there]
        rfl
      · cases h

theorem store_error (h : store path contents mode before = .error e after) : after = before := by
  unfold store at h
  split at h
  · cases h
  · split at h <;> cases h
    rfl
  · cases h
    rfl

theorem store_adds : Keeps (store path contents mode) Adds := by
  constructor
  · intro before _ after h
    obtain ⟨target, -, free, rfl⟩ := store_cases h
    exact .file .nothing free
  · intro before e after h
    rw [store_error h]
    exact .nothing

theorem setExecutable_cases (h : setExecutable path mode before = .ok () after) :
    (∃ location old oldMode, before.locate path = .ok location ∧
      before.get? location = some (.file old oldMode) ∧
      after = before.put location (.file old mode)) ∨ after = before := by
  unfold setExecutable at h
  cases located : before.locate path with
  | error e => simp [located] at h
  | ok location =>
    simp only [located] at h
    split at h
    · rename_i old oldMode there
      obtain rfl := (EStateM.Result.ok.inj h).2
      exact .inl ⟨location, old, oldMode, rfl, there, rfl⟩
    · exact .inr (EStateM.Result.ok.inj h).2.symm

theorem setExecutable_error (h : setExecutable path mode before = .error e after) :
    after = before := by
  unfold setExecutable at h
  split at h
  · split at h <;> cases h
  · cases h
    rfl

private theorem setExecutable_adds : Keeps (setExecutable path mode) Adds := by
  constructor
  · intro before _ after h
    rcases setExecutable_cases h with ⟨location, old, oldMode, -, there, rfl⟩ | rfl
    · exact .file .nothing (.inr ⟨old, oldMode, there⟩)
    · exact .nothing
  · intro before e after h
    rw [setExecutable_error h]
    exact .nothing

theorem ask_keeps {α : Type} {query : FileSystem → Except OsError α} :
    Keeps (ask query) Effect.Same := by
  constructor
  · intro before a after h
    exact (ask_eq_ok.mp h).2
  · intro before e after h
    unfold ask at h
    split at h <;> cases h
    rfl

theorem copy_adds {source target : Path} : Keeps (copy source target) Adds := by
  have asked {α : Type} {query : FileSystem → Except OsError α} : Keeps (ask query) Adds :=
    ask_keeps.mono (Effect.Same.elim Adds.refl)
  unfold copy
  refine .bind Adds.trans asked fun entry => ?_
  refine .bind Adds.trans store_adds fun _ => ?_
  refine .bind Adds.trans asked fun contents => ?_
  exact .bind Adds.trans store_adds fun _ => setExecutable_adds

theorem locate_put {target : Target} (found : before.resolve true path = .ok target)
    (free : before.Writable target.location) :
    (before.put target.location (.file contents mode)).locate path = .ok target.location := by
  have change := (FileSystem.Adds.file .nothing free : before.Adds
    (before.put target.location (.file contents mode))).grows
  obtain ⟨accepted, n, few, route⟩ := FileSystem.resolve_eq_ok.mp found
  refine FileSystem.locate_eq_ok.mpr (FileSystem.resolve_eq_ok.mpr ⟨accepted, n, few, ?_⟩)
  cases target with
  | vacant directory name =>
    exact route.of_made change (FileSystem.get?_put_self (by simp [Target.location])) (by simp)
  | existing location => exact route.of_changes change

private theorem store_status (h : store path contents mode before = .ok () after) :
    ∃ mode', after.status path = .ok (.file contents mode') := by
  obtain ⟨target, found, free, rfl⟩ := store_cases h
  exact ⟨_, FileSystem.status_eq_ok.mpr ⟨target.location, locate_put found free,
    free.get?_put⟩⟩

private theorem fromUTF8?_toUTF8 (text : String) : String.fromUTF8? text.toUTF8 = some text :=
  dif_pos text.isValidUTF8

theorem writeText_readText {text : String} (h : writeText path text before = .ok () after) :
    after.readText path = .ok text := by
  obtain ⟨mode', there⟩ := store_status h
  have read : after.readBytes path = .ok text.toUTF8 :=
    FileSystem.readBytes_eq_ok.mpr ⟨mode', there⟩
  simp only [FileSystem.readText, read, bind, Except.bind, fromUTF8?_toUTF8]

theorem store_again {location : Location} {old : ByteArray} {oldMode : Bool}
    (located : before.locate path = .ok location)
    (there : before.get? location = some (.file old oldMode)) :
    store path contents mode before = .ok () (before.put location (.file contents oldMode)) := by
  simp only [store, FileSystem.locate_eq_ok.mp located, there]

private theorem setExecutable_again {location : Location} {old : ByteArray} {oldMode : Bool}
    (located : before.locate path = .ok location)
    (there : before.get? location = some (.file old oldMode)) :
    setExecutable path mode before = .ok () (before.put location (.file old mode)) := by
  simp only [setExecutable, located, there]

/-- A copy is a file with the contents and the mode of the source, unless the source is the copy
itself. -/
theorem copy_cases {source goal : Path} (h : copy source goal before = .ok () after) :
    ∃ place target contents mode, before.locate source = .ok place ∧
      before.resolve true goal = .ok target ∧
      before.Writable target.location ∧
      (place ≠ target.location → before.get? place = some (.file contents mode)) ∧
      after = before.put target.location (.file contents mode) := by
  obtain ⟨entry, start, asked, h₁⟩ := Effect.bind_eq_ok.mp h
  obtain ⟨status, rfl⟩ := ask_eq_ok.mp asked
  obtain ⟨⟨⟩, emptied, first, h₂⟩ := Effect.bind_eq_ok.mp h₁
  obtain ⟨contents, fs', asked', h₃⟩ := Effect.bind_eq_ok.mp h₂
  obtain ⟨read, rfl⟩ := ask_eq_ok.mp asked'
  obtain ⟨⟨⟩, refilled, second, third⟩ := Effect.bind_eq_ok.mp h₃
  obtain ⟨place, located, there⟩ := FileSystem.status_eq_ok.mp status
  have grows := (store_adds.ok _ _ _ first).grows
  obtain ⟨target, found, free, rfl⟩ := store_cases first
  -- The copy is written twice more, where it was found first.
  have stands (entry : Entry) :
      (start.put target.location entry).get? target.location = some entry :=
    free.get?_put
  rw [store_again (locate_put found free) (stands _), FileSystem.put_put] at second
  obtain rfl := (EStateM.Result.ok.inj second).2
  rw [setExecutable_again (locate_put found free) (stands _), FileSystem.put_put] at third
  refine ⟨place, target, contents, _, located, found, free, fun away => ?_,
    (EStateM.Result.ok.inj third).2.symm⟩
  obtain ⟨mode, status'⟩ := FileSystem.readBytes_eq_ok.mp read
  obtain ⟨place', located', there'⟩ := FileSystem.status_eq_ok.mp status'
  rw [FileSystem.locate_of_changes grows located] at located'
  obtain rfl := Except.ok.inj located'
  rw [FileSystem.get?_put_of_ne away, there] at there'
  cases there'
  exact there

theorem copy_again {source goal : Path} {place location : Location} {old : ByteArray}
    {oldMode : Bool} (sourced : before.locate source = .ok place)
    (held : before.get? place = some (.file contents mode))
    (located : before.locate goal = .ok location)
    (there : before.get? location = some (.file old oldMode)) (away : place ≠ location) :
    copy source goal before = .ok () (before.put location (.file contents mode)) := by
  have found := FileSystem.locate_eq_ok.mp located
  have free : before.Writable location := .inr ⟨old, oldMode, there⟩
  have stands (entry : Entry) : (before.put location entry).get? location = some entry :=
    free.get?_put
  have first : store goal ByteArray.empty mode before = _ := store_again located there
  have second : store goal contents mode _ = _ :=
    store_again (locate_put found free) (stands (.file ByteArray.empty oldMode))
  have third : setExecutable goal mode _ = _ :=
    setExecutable_again (locate_put found free) (stands (.file contents oldMode))
  rw [Target.location, FileSystem.put_put] at second third
  have status := FileSystem.status_eq_ok.mpr ⟨place, sourced, held⟩
  have read := FileSystem.readBytes_eq_ok.mpr ⟨mode, FileSystem.status_eq_ok.mpr
    ⟨place, FileSystem.locate_of_changes (store_adds.ok _ _ _ first).grows sourced,
      (FileSystem.get?_put_of_ne away).trans held⟩⟩
  exact Effect.bind_eq_ok.mpr ⟨.file contents mode, before, ask_eq_ok.mpr ⟨status, rfl⟩,
    Effect.bind_eq_ok.mpr ⟨(), _, first,
      Effect.bind_eq_ok.mpr ⟨contents, _, ask_eq_ok.mpr ⟨read, rfl⟩,
        Effect.bind_eq_ok.mpr ⟨(), _, second, third⟩⟩⟩⟩

theorem ask_eq_error {α : Type} {query : FileSystem → Except OsError α} :
    ask query before = .error e after ↔ query before = .error e ∧ after = before := by
  unfold ask
  cases query before <;> simp [eq_comm]

/-- A copy that is refused has changed nothing, when its source is still a file after the copy was
emptied. -/
theorem copy_error {source target : Path} (h : copy source target before = .error e after)
    (lasts : ∀ entry emptied mode, before.status source = .ok entry →
      store target ByteArray.empty mode before = .ok () emptied →
      ∃ bytes mode', emptied.status source = .ok (.file bytes mode')) : after = before := by
  rcases Effect.bind_eq_error.mp h with asked | ⟨entry, fs, asked, h₁⟩
  · exact (ask_eq_error.mp asked).2
  obtain ⟨found, rfl⟩ := ask_eq_ok.mp asked
  rcases Effect.bind_eq_error.mp h₁ with refused | ⟨⟨⟩, emptied, stored, h₂⟩
  · exact store_error refused
  -- From here on nothing is refused: source and target are files.
  exfalso
  obtain ⟨bytes, mode', there⟩ := lasts entry emptied _ found stored
  rcases Effect.bind_eq_error.mp h₂ with asked' | ⟨contents, fs', asked', h₃⟩
  · have read := FileSystem.readBytes_eq_ok.mpr ⟨mode', there⟩
    rw [(ask_eq_error.mp asked').1] at read
    cases read
  obtain ⟨-, rfl⟩ := ask_eq_ok.mp asked'
  rcases Effect.bind_eq_error.mp h₃ with refused | ⟨⟨⟩, refilled, stored', refused⟩
  · obtain ⟨_, first⟩ := store_status stored
    obtain ⟨location, located, here⟩ := FileSystem.status_eq_ok.mp first
    rw [store_again located here] at refused
    cases refused
  · obtain ⟨_, second⟩ := store_status stored'
    obtain ⟨location, located, here⟩ := FileSystem.status_eq_ok.mp second
    rw [setExecutable_again located here] at refused
    cases refused

end FileAction

end UiScaffold
