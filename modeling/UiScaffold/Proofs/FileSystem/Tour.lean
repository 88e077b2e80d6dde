import UiScaffold.Proofs.FileSystem.Growth
import UiScaffold.Proofs.FileSystem.Missing
import UiScaffold.Proofs.FileSystem.Walk

/-!
Walks told in advance.

A tour lists what a walk comes to in a tree that does not change: the files that it visits, and the
places where it is refused. When the visits of a walk write at a site only, and no path below the
root leads into the site, around it, or to something missing in it, then the walk does what the tour
of the tree at its start tells.
-/

set_option autoImplicit false
set_option relaxedAutoImplicit false

namespace UiScaffold

open FileSystem (Route Leads IsTree Adds base maxLinks)

namespace FileSystem

variable {fs : FileSystem} {location middle : Location} {steps : List PathStep} {path : Path}
  {n : Nat}

private theorem Route.not_link (tree : fs.IsTree)
    (h : Route fs true location steps n (.existing middle))
    (start : ∀ target, fs.get? location ≠ some (.link target)) :
    ∀ target, fs.get? middle ≠ some (.link target) := by
  generalize end_of_route : Target.existing middle = target at h
  induction h with
  | done =>
    cases end_of_route
    exact start
  | stay _ _ ih => exact ih start end_of_route
  | @up location _ _ _ here _ ih =>
    refine ih ?_ end_of_route
    rcases location.eq_nil_or_concat with rfl | ⟨front, name, rfl⟩
    · exact start
    · rw [List.concat_eq_append] at here ⊢
      rw [List.dropLast_concat, tree.parent front name _ here]
      simp
  | enter _ _ found plain _ ih =>
    refine ih (fun target linked => plain target ?_) end_of_route
    exact Option.some.inj (found.symm.trans linked)
  | turn here _ _ _ _ ih =>
    refine ih ?_ end_of_route
    unfold base
    split
    · simp
    · simp [here]
  | keep _ _ _ stop => cases stop
  | vacant => cases end_of_route

theorem Leads.not_link (tree : fs.IsTree) (h : fs.Leads path location) (filled : path.way ≠ []) :
    ∀ target, fs.get? location ≠ some (.link target) := by
  obtain ⟨n, -, route⟩ := leads_iff.mp h
  obtain ⟨step, steps, way⟩ := List.exists_cons_of_ne_nil filled
  rw [way] at route
  refine route.not_link tree fun target linked => ?_
  rw [route.directory_of_cons] at linked
  cases linked

end FileSystem

namespace Walk

open Effect (answer reply Alike)

/-- No path below a root leads into a site or to a directory around it, and none misses something
inside of the site. -/
structure Clear (fs : FileSystem) (root : Path) (site : Location) : Prop where
  apart : Apart fs root site
  missing : ∀ names place, (∀ name ∈ names, Path.isNormal name = true) →
    fs.PathMisses (root.down names) place → ¬ site <+: place

/-- What a tour comes to: a file that is visited, or the reason to go no further. -/
abbrev Stop := Except WalkError Asset

def tourEntry (fs : FileSystem) (wanted : Asset → Bool) (trail : Trail) (path : Path)
    (relative : List String) (below : Path → List String → List Stop) (listed : String × Entry) :
    List Stop :=
  let asset : Asset := ⟨path.child listed.1, relative ++ [listed.1]⟩
  match answer (leadsDown trail asset.path listed.2 fs) with
  | .error refusal => [.error refusal]
  | .ok true => below asset.path asset.relative
  | .ok false => if wanted asset then [.ok asset] else []

/-- The stops of a tour below a directory, at most `depth` levels deep. -/
def tourFrom (fs : FileSystem) (wanted : Asset → Bool) :
    Nat → Trail → Path → List String → List Stop
  | 0, _, path, _ => [.error (.refused path .nameTooLong)]
  | depth + 1, trail, path, relative =>
    match answer (enter path fs) with
    | .error refusal => [.error refusal]
    | .ok (location, entries) =>
      let trail := (path, location) :: trail
      entries.flatMap (tourEntry fs wanted trail path relative (tourFrom fs wanted depth trail))

/-- The stops of a tour below a root, in the order of a walk. -/
def tour (fs : FileSystem) (wanted : Asset → Bool) (root : Path) : List Stop :=
  tourFrom fs wanted (Path.maxLength + 1) [] root []

variable {ε : Type} {refuse : WalkError → ε} {wanted : Asset → Bool}
  {visit : Asset → EStateM ε FileSystem Unit} {fs made : FileSystem} {root path : Path}
  {site location directory : Location} {names relative : List String} {name : String}
  {trail : Trail} {entry : Entry} {depth : Nat}

/-- Visits a file, or goes no further. -/
def stop (refuse : WalkError → ε) (visit : Asset → EStateM ε FileSystem Unit) :
    Stop → EStateM ε FileSystem Unit
  | .ok asset => visit asset
  | .error refusal => throw (refuse refusal)

private theorem enter_congr (found : fs.locateDirectory path = made.locateDirectory path)
    (same : ∀ location, made.locateDirectory path = .ok location →
      listing fs location = listing made location) :
    enter path fs = reply (answer (enter path made)) fs := by
  rw [enter_eq, enter_eq, found]
  cases placed : made.locateDirectory path with
  | error cause => rfl
  | ok location =>
    simp only [same location placed]
    rfl

private theorem leadsDown_congr (status : fs.status path = made.status path)
    (located : fs.locate path = made.locate path) :
    leadsDown trail path entry fs =
      reply (answer (leadsDown trail path entry made)) fs := by
  cases entry with
  | directory | file => rfl
  | link target =>
    change EStateM.bind (ask path _) _ fs =
      reply (answer (EStateM.bind (ask path _) _ made)) fs
    unfold EStateM.bind ask
    simp only [status]
    cases made.status path with
    | error cause => rfl
    | ok other =>
      cases other with
      | file | link => rfl
      | directory =>
        change EStateM.bind (ask path _) _ fs =
          reply (answer (EStateM.bind (ask path _) _ made)) fs
        unfold EStateM.bind ask
        simp only [located]
        cases made.locate path with
        | error cause => rfl
        | ok location =>
          simp only
          cases trail.find? (·.2 = location) <;> rfl

section Clear

variable (clear : Clear made root site) (within : made.Within site fs)
  (normal : ∀ name ∈ names, Path.isNormal name = true)
include clear within normal

private theorem get?_of_leads (leads : made.Leads (root.down names) location) :
    fs.get? location = made.get? location := by
  have outside := (clear.apart names location normal leads).1
  exact within.unchanged outside outside

private theorem Clear.locate_eq : fs.locate (root.down names) = made.locate (root.down names) := by
  refine FileSystem.locate_eq within fun place missed => ?_
  have outside := clear.missing names place normal missed
  rw [within.unchanged outside outside]
  exact missed.get?

theorem Clear.status_eq : fs.status (root.down names) = made.status (root.down names) := by
  rw [FileSystem.status, FileSystem.status, clear.locate_eq within normal]
  cases located : made.locate (root.down names) with
  | error e => rfl
  | ok location =>
    simp only [bind, Except.bind, get?_of_leads clear within normal (.of_locate located)]

private theorem Clear.locateDirectory_eq :
    fs.locateDirectory (root.down names) = made.locateDirectory (root.down names) := by
  rw [FileSystem.locateDirectory, FileSystem.locateDirectory, clear.locate_eq within normal]
  cases located : made.locate (root.down names) with
  | error e => rfl
  | ok location =>
    have same : fs.hasDirectory location = made.hasDirectory location := by
      rw [FileSystem.hasDirectory, FileSystem.hasDirectory,
        get?_of_leads clear within normal (.of_locate located)]
    simp only [bind, Except.bind, same]

end Clear

structure Toured (fs : FileSystem) (root : Path) (wanted : Asset → Bool) (asset : Asset) : Prop
    extends Wanted root wanted asset where
  file : ∀ entry, fs.status asset.path = .ok entry → ∃ contents mode, entry = .file contents mode

section Toured

variable {asset : Asset} (tree : fs.IsTree)
include tree

private theorem file_of_leadsDown {before : FileSystem} {other : Entry}
    (normal : ∀ other ∈ names ++ [name], Path.isNormal other = true)
    (leads : fs.Leads (root.down names) directory)
    (there : fs.get? (directory ++ [name]) = some entry)
    (led : leadsDown trail (root.down (names ++ [name])) entry fs = .ok false before)
    (status : fs.status (root.down (names ++ [name])) = .ok other) :
    ∃ contents mode, other = .file contents mode := by
  obtain ⟨location, located, found⟩ := FileSystem.status_eq_ok.mp status
  have reached := Leads.of_locate located
  rcases (leadsDown_ok led).2 with ⟨-, down⟩ | ⟨⟨contents, mode, rfl⟩, -⟩ | ⟨-, link⟩
  · cases down
  · rw [Path.down_concat] at reached
    obtain rfl := Leads.child_entry (normal name (by simp)) leads there (by simp) reached
    exact ⟨contents, mode, Option.some.inj (found.symm.trans there)⟩
  · obtain ⟨location', other', leads', found', down_iff⟩ := link
    obtain rfl := leads'.unique reached
    obtain rfl := Option.some.inj (found'.symm.trans found)
    have way : (root.down (names ++ [name])).way ≠ [] := by
      rw [Path.down_eq_append normal (by simp), Path.append_way normal (by simp)]
      simp
    cases other' with
    | directory => simp at down_iff
    | file contents mode => exact ⟨contents, mode, rfl⟩
    | link target => exact absurd found (reached.not_link tree way target)

private theorem mem_tourEntry {below : Path → List String → List Stop}
    (normal : ∀ other ∈ names ++ [name], Path.isNormal other = true)
    (leads : fs.Leads (root.down names) directory)
    (there : fs.get? (directory ++ [name]) = some entry)
    (h : .ok asset ∈ tourEntry fs wanted trail (root.down names) names below (name, entry)) :
    .ok asset ∈ below (root.down (names ++ [name])) (names ++ [name]) ∨
      Toured fs root wanted asset := by
  simp only [tourEntry, ← Path.down_concat] at h
  cases led : answer (leadsDown trail (root.down (names ++ [name])) entry fs) with
  | error refusal => simp [led] at h
  | ok down =>
    obtain ⟨before, led'⟩ := Effect.answer_eq_ok.mp led
    cases down with
    | true => exact .inl (by simpa only [led] using h)
    | false =>
      simp only [led] at h
      split at h
      · rename_i asked
        obtain rfl := Except.ok.inj (List.mem_singleton.mp h)
        exact .inr ⟨⟨normal, by simp, rfl, asked⟩,
          fun other => file_of_leadsDown tree normal leads there led'⟩
      · cases h

private theorem mem_tourFrom (normal : ∀ name ∈ names, Path.isNormal name = true)
    (h : .ok asset ∈ tourFrom fs wanted depth trail (root.down names) names) :
    Toured fs root wanted asset := by
  induction depth generalizing names trail with
  | zero => simp [tourFrom] at h
  | succ depth ih =>
    rw [tourFrom] at h
    cases entered : answer (enter (root.down names) fs) with
    | error refusal => simp [entered] at h
    | ok found =>
      obtain ⟨directory, entries⟩ := found
      obtain ⟨before, entered'⟩ := Effect.answer_eq_ok.mp entered
      obtain ⟨-, leads, -, listed⟩ := enter_ok entered'
      simp only [entered, List.mem_flatMap] at h
      obtain ⟨⟨name, entry⟩, member, h⟩ := h
      have there := (listed name entry).mp member
      have all_normal : ∀ other ∈ names ++ [name], Path.isNormal other = true := by
        simpa [or_imp, forall_and, tree.normal directory name entry there] using normal
      rcases mem_tourEntry tree all_normal leads there h with deeper | toured
      · exact ih all_normal deeper
      · exact toured

theorem mem_tour (h : .ok asset ∈ tour fs wanted root) : Toured fs root wanted asset := by
  have normal : ∀ name ∈ ([] : List String), Path.isNormal name = true := by simp
  exact mem_tourFrom tree normal h

end Toured

section Walk

variable {I : FileSystem → Prop} (visits : Visits site visit I)

include visits in
private theorem stops_keep {stops : List Stop} {after : FileSystem}
    (toured : ∀ asset, .ok asset ∈ stops → Toured made root wanted asset) (kept : I fs)
    (h : stops.forM (stop refuse visit) fs = .ok () after) : I after := by
  refine Effect.forM_invariant (fun taken listed before after kept h => ?_) h kept
  cases taken with
  | error refusal => cases h
  | ok asset =>
    have found := toured asset listed
    exact (visits.step asset before after found.normal found.filled kept h).1

variable (clear : Clear made root site) (since : ∀ fs, I fs → made.Adds fs ∧ made.Within site fs)

include clear since in
private theorem walkEntry_tour
    (below : ∀ names fs, (∀ name ∈ names, Path.isNormal name = true) → I fs →
      Alike id (walkFrom refuse wanted visit depth trail (root.down names) names fs)
        ((tourFrom made wanted depth trail (root.down names) names).forM (stop refuse visit) fs))
    (normal : ∀ other ∈ names ++ [name], Path.isNormal other = true) (kept : I fs) :
    Alike id (walkEntry refuse wanted visit depth trail (root.down names) names (name, entry) fs)
      ((tourEntry made wanted trail (root.down names) names (tourFrom made wanted depth trail)
        (name, entry)).forM (stop refuse visit) fs) := by
  obtain ⟨-, within⟩ := since fs kept
  have led : leadsDown trail (root.down (names ++ [name])) entry fs = _ :=
    leadsDown_congr (clear.status_eq within normal) (clear.locate_eq within normal)
  have below := below (names ++ [name]) fs normal kept
  rw [Path.down_concat] at led below
  rw [walkEntry, Effect.bind_of_reply led, tourEntry]
  cases answer (leadsDown trail ((root.down names).child name) entry made) with
  | error refusal => exact .error
  | ok down =>
    cases down with
    | true => exact below
    | false =>
      by_cases asked : wanted ⟨(root.down names).child name, names ++ [name]⟩ = true
      · simp only [asked, Bool.false_eq_true, if_true, if_false]
        exact .ending
      · simp only [asked, Bool.false_eq_true, if_false]
        exact .ok

include visits clear since in
private theorem walkFrom_tour (tree : made.IsTree)
    (normal : ∀ name ∈ names, Path.isNormal name = true) (kept : I fs) :
    Alike id (walkFrom refuse wanted visit depth trail (root.down names) names fs)
      ((tourFrom made wanted depth trail (root.down names) names).forM (stop refuse visit) fs) := by
  induction depth generalizing names trail fs with
  | zero => exact .error
  | succ depth ih =>
    obtain ⟨adds, within⟩ := since fs kept
    have entered := enter_congr (clear.locateDirectory_eq within normal) fun location placed =>
      listing_eq adds within (clear.apart names location normal
          (.of_locate (FileSystem.locateDirectory_eq_ok.mp placed).1))
    rw [walkFrom, Effect.bind_of_reply entered, tourFrom]
    cases told : answer (enter (root.down names) made) with
    | error refusal => exact .error
    | ok found =>
      obtain ⟨directory, entries⟩ := found
      obtain ⟨before, entered'⟩ := Effect.answer_eq_ok.mp told
      obtain ⟨-, leads, -, listed⟩ := enter_ok entered'
      refine .map (x := entries.mapM (walkEntry refuse wanted visit depth
        ((root.down names, directory) :: trail) (root.down names) names)) ?_
      refine .mapM_flatMap (I := I) ?_ kept
      rintro ⟨name, entry⟩ member fs kept
      have there := (listed name entry).mp member
      have all_normal : ∀ other ∈ names ++ [name], Path.isNormal other = true := by
        simpa [or_imp, forall_and, tree.normal directory name entry there] using normal
      have toured (asset : Asset) (h : .ok asset ∈ tourEntry made wanted
          ((root.down names, directory) :: trail) (root.down names) names
          (tourFrom made wanted depth ((root.down names, directory) :: trail)) (name, entry)) :
          Toured made root wanted asset := by
        rcases mem_tourEntry tree all_normal leads there h with deeper | toured
        · exact mem_tourFrom tree all_normal deeper
        · exact toured
      exact ⟨walkEntry_tour clear since (fun _ _ => ih) all_normal kept,
        fun after h => stops_keep visits toured kept h⟩

include visits clear since in
theorem walk_tour (tree : made.IsTree) (kept : I made) :
    Alike id (walk refuse wanted visit root made)
      ((tour made wanted root).forM (stop refuse visit) made) := by
  have normal : ∀ name ∈ ([] : List String), Path.isNormal name = true := by simp
  exact walkFrom_tour visits clear since tree normal kept

end Walk

/-- Below a directory without links, no path leads to a site that is neither in it nor around it, or
misses something there. -/
theorem Clear.of_linkFree (leads : fs.Leads root directory) (free : fs.LinkFree directory)
    (apart : ¬ site <+: directory ∧ ¬ directory <+: site) : Clear fs root site := by
  refine ⟨.of_linkFree leads free apart, fun names place normal missed inside => ?_⟩
  have ⟨abs, rest, steps, onward⟩ : (root.down names).isAbsolute = _ ∧ _ := Path.down_steps normal
  obtain ⟨n, -, route⟩ := FileSystem.leads_iff.mp leads
  rw [FileSystem.PathMisses, FileSystem.base_congr abs, steps] at missed
  have below : directory <+: place := (missed.after_route route).downward free onward
  rcases List.prefix_or_prefix_of_prefix inside below with h | h
  · exact apart.1 h
  · exact apart.2 h

end Walk

end UiScaffold
