import UiScaffold.Proofs.FileSystem.Route
import UiScaffold.Proofs.FileSystem.Way

/-!
Where paths lead.

What a path leads to depends on its way only. Names that are appended to a path lead on from where
the path leads, and below a place without links they lead straight down.
-/

set_option autoImplicit false
set_option relaxedAutoImplicit false

namespace UiScaffold

open PathStep (trim exists_stays)

def Target.location : Target → Location
  | .existing location => location
  | .vacant directory name => directory ++ [name]

namespace FileSystem

/-- Where a path leads through all links, however long its spelling is. -/
def Leads (fs : FileSystem) (path : Path) (location : Location) : Prop :=
  fs.follow true maxLinks (base fs.workingDirectory path) path.way = .ok (.existing location)

/-- No link at a location or below it. -/
def LinkFree (fs : FileSystem) (location : Location) : Prop :=
  ∀ below, location <+: below → ∀ path, fs.get? below ≠ some (.link path)

variable {fs before after : FileSystem} {followLast : Bool} {location middle : Location}
  {steps : List PathStep} {names : List String} {path other : Path} {n : Nat} {target : Target}

theorem LinkFree.of_entries (h : ∀ e ∈ fs.entries, location <+: e.1 → ∀ path, e.2 ≠ .link path) :
    fs.LinkFree location := by
  intro below inside path found
  rcases below.eq_nil_or_concat with rfl | ⟨directory, name, rfl⟩
  · cases found
  · rw [List.concat_eq_append] at inside found
    exact h _ (mem_of_get?_concat found) inside path rfl

namespace Route

theorem directory_of_cons {step : PathStep}
    (h : Route fs followLast location (step :: steps) n target) :
    fs.get? location = some .directory := by
  generalize all : step :: steps = path at h
  cases h with
  | done => cases all
  | stay here | up here | enter here | turn here | keep here | vacant here => exact here

private theorem of_stays {count : Nat}
    (h : Route fs followLast location (List.replicate count .stay) n target) :
    n = 0 ∧ target = .existing location := by
  induction count with
  | zero =>
    cases h
    exact ⟨rfl, rfl⟩
  | succ count ih =>
    cases h with
    | stay _ more => exact ih more

/-- Steps at the end that stay lead nowhere else. -/
theorem of_trim (h : Route fs true location (trim steps) n (.existing middle))
    (here : fs.get? middle = some .directory) :
    Route fs true location steps n (.existing middle) := by
  obtain ⟨count, same⟩ := exists_stays steps
  cases count with
  | zero =>
    rw [List.replicate_zero, List.append_nil] at same
    rw [same]
    exact h
  | succ count =>
    have stays : ∀ count,
        Route fs true middle (List.replicate count .stay) 0 (.existing middle) := by
      intro count
      induction count with
      | zero => exact .done
      | succ count ih => exact .stay here ih
    rw [same]
    exact h.append (stays _) (by simp)

private theorem to_trim (h : Route fs followLast location steps n target) :
    Route fs followLast location (trim steps) n target ∨
      Route fs true location (trim steps) n target := by
  obtain ⟨count, same⟩ := exists_stays steps
  cases count with
  | zero =>
    rw [List.replicate_zero, List.append_nil] at same
    exact .inl (same ▸ h)
  | succ count =>
    rw [same] at h
    obtain ⟨middle, k, m, rfl, first, second⟩ := h.split (by simp)
    obtain ⟨rfl, rfl⟩ := of_stays second
    exact .inr first

theorem trim_of_existing (h : Route fs true location steps n target) :
    Route fs true location (trim steps) n target := h.to_trim.elim id id

theorem trim_of_vacant {directory : Location} {name : String}
    (h : Route fs followLast location steps n (.vacant directory name)) :
    Route fs followLast location (trim steps) n (.vacant directory name) := by
  obtain ⟨count, same⟩ := exists_stays steps
  cases count with
  | zero =>
    rw [List.replicate_zero, List.append_nil] at same
    exact same ▸ h
  | succ count =>
    rw [same] at h
    obtain ⟨middle, k, m, rfl, -, second⟩ := h.split (by simp)
    cases (of_stays second).2

/-- Steps that lead somewhere still do when a link in the last place is not followed. -/
theorem unfollowed (h : Route fs true location steps n (.existing middle)) :
    ∃ m ≤ n, ∃ place, Route fs false location steps m (.existing place) := by
  generalize end_of_route : Target.existing middle = target at h
  induction h with
  | done => exact ⟨0, Nat.le_refl 0, _, .done⟩
  | stay here _ ih =>
    obtain ⟨m, few, place, route⟩ := ih end_of_route
    exact ⟨m, few, place, .stay here route⟩
  | up here _ ih =>
    obtain ⟨m, few, place, route⟩ := ih end_of_route
    exact ⟨m, few, place, .up here route⟩
  | enter here short found plain _ ih =>
    obtain ⟨m, few, place, route⟩ := ih end_of_route
    exact ⟨m, few, place, .enter here short found plain route⟩
  | @turn location name path rest n target here short found _ _ ih =>
    by_cases last : rest = []
    · subst last
      exact ⟨0, Nat.zero_le _, _, .keep here short found rfl⟩
    · obtain ⟨m, few, place, route⟩ := ih end_of_route
      exact ⟨m + 1, Nat.succ_le_succ few, place, .turn here short found (.inl last) route⟩
  | keep _ _ _ stop => cases stop
  | vacant => cases end_of_route

theorem isNormal_of_vacant {directory : Location} {name : String}
    (spelled : ∀ name, .enter name ∈ steps → Path.isNormal name = true)
    (h : Route fs followLast location steps n (.vacant directory name)) :
    Path.isNormal name = true := by
  generalize end_of_route : Target.vacant directory name = target at h
  induction h with
  | done | keep => cases end_of_route
  | stay _ _ ih | up _ _ ih | enter _ _ _ _ _ ih =>
    exact ih (fun other h => spelled other (List.mem_cons_of_mem _ h)) end_of_route
  | turn _ _ _ _ _ ih =>
    refine ih (fun other h => ?_) end_of_route
    rcases List.mem_append.mp h with h | h
    · exact Path.isNormal_of_mem_steps h
    · exact spelled other (List.mem_cons_of_mem _ h)
  | vacant =>
    cases end_of_route
    exact spelled _ List.mem_cons_self

private theorem enter_inv {name : String}
    (plain : ∀ path, fs.get? (location ++ [name]) ≠ some (.link path))
    (h : Route fs followLast location (.enter name :: steps) n target) :
    fs.get? location = some .directory ∧
      (n = 0 ∧ steps = [] ∧ target.location = location ++ [name] ∨
        Route fs followLast (location ++ [name]) steps n target) := by
  generalize all : PathStep.enter name :: steps = path at h
  cases h with
  | done | stay | up => cases all
  | enter here _ _ _ more =>
    cases all
    exact ⟨here, .inr more⟩
  | turn _ _ found | keep _ _ found =>
    cases all
    exact absurd found (plain _)
  | vacant here =>
    cases all
    exact ⟨here, .inl ⟨rfl, rfl, rfl⟩⟩

/-- Without links, names lead straight down through directories. -/
theorem straight (free : fs.LinkFree location)
    (h : Route fs followLast location (names.map .enter) n target) :
    n = 0 ∧ target.location = location ++ names ∧
      ∀ front, front <+: names → front ≠ names → fs.get? (location ++ front) = some .directory := by
  induction names generalizing location n with
  | nil =>
    cases h
    refine ⟨rfl, by rw [Target.location, List.append_nil], fun front short proper => ?_⟩
    exact absurd (List.prefix_nil.mp short) proper
  | cons name names ih =>
    have below : location <+: location ++ [name] := List.prefix_append _ _
    obtain ⟨here, more⟩ := enter_inv (free _ below) h
    rcases more with ⟨rfl, last, place⟩ | more
    · obtain rfl := List.map_eq_nil_iff.mp last
      refine ⟨rfl, place, fun front short proper => ?_⟩
      rcases List.prefix_cons_iff.mp short with rfl | ⟨front, rfl, inner⟩
      · rwa [List.append_nil]
      · exact absurd (congrArg (name :: ·) (List.prefix_nil.mp inner)) proper
    · obtain ⟨none, place, dirs⟩ := ih (fun under h => free under (below.trans h)) more
      refine ⟨none, by simpa using place, fun front short proper => ?_⟩
      rcases List.prefix_cons_iff.mp short with rfl | ⟨front, rfl, inner⟩
      · rwa [List.append_nil]
      · simpa using dirs front inner fun same => proper (congrArg (name :: ·) same)

end Route

theorem leads_iff : fs.Leads path location ↔
    ∃ n ≤ maxLinks, Route fs true (base fs.workingDirectory path) path.way n (.existing location) :=
  follow_eq_ok

theorem resolve_eq_ok : fs.resolve followLast path = .ok target ↔ path.refusal? = none ∧
    ∃ n ≤ maxLinks,
      Route fs followLast (base fs.workingDirectory path) path.steps n target := by
  rw [resolve, ← follow_eq_ok]
  cases path.refusal? <;> simp

theorem locate_eq_ok : fs.locate path = .ok location ↔
    fs.resolve true path = .ok (.existing location) := by
  rw [locate]
  cases fs.resolve true path with
  | error e => simp
  | ok target => cases target <;> simp

theorem status_eq_ok {entry : Entry} : fs.status path = .ok entry ↔
    ∃ location, fs.locate path = .ok location ∧ fs.get? location = some entry := by
  rw [status]
  cases fs.locate path with
  | error e => simp [bind, Except.bind]
  | ok location => cases found : fs.get? location <;> simp [bind, Except.bind, found]

theorem readBytes_eq_ok {contents : ByteArray} : fs.readBytes path = .ok contents ↔
    ∃ mode, fs.status path = .ok (.file contents mode) := by
  rw [readBytes]
  cases fs.status path with
  | error e => simp [bind, Except.bind]
  | ok entry => cases entry <;> simp [bind, Except.bind]

theorem locateDirectory_eq_ok : fs.locateDirectory path = .ok location ↔
    fs.locate path = .ok location ∧ fs.get? location = some .directory := by
  rw [locateDirectory, ← hasDirectory_iff]
  cases fs.locate path with
  | error e => simp [bind, Except.bind]
  | ok place =>
    by_cases here : fs.hasDirectory place = true
    · simp only [bind, Except.bind, here, if_true, Except.ok.injEq]
      exact ⟨fun same => ⟨same, same ▸ here⟩, fun h => h.1⟩
    · simp only [bind, Except.bind, if_neg here, Except.ok.injEq, reduceCtorEq, false_iff]
      rintro ⟨rfl, h⟩
      exact here h

theorem base_congr (h : other.isAbsolute = path.isAbsolute) :
    base location other = base location path := by
  rw [base, base, h]

namespace Leads

theorem unique (h : fs.Leads path location) (h' : fs.Leads path middle) : location = middle := by
  unfold Leads at h h'
  rw [h] at h'
  cases h'
  rfl

theorem congr (abs : other.isAbsolute = path.isAbsolute) (way : other.way = path.way) :
    fs.Leads other location ↔ fs.Leads path location := by
  rw [Leads, Leads, base_congr abs, way]

theorem of_locate (h : fs.locate path = .ok location) : fs.Leads path location := by
  obtain ⟨-, n, few, route⟩ := resolve_eq_ok.mp (locate_eq_ok.mp h)
  exact leads_iff.mpr ⟨n, few, route.trim_of_existing⟩

theorem of_changes {directories files : Location → Prop}
    (change : Changes directories files before after) (h : before.Leads path location) :
    after.Leads path location := by
  obtain ⟨n, few, route⟩ := leads_iff.mp h
  rw [leads_iff, change.workingDirectory]
  exact ⟨n, few, route.of_changes change⟩

theorem child {name : String} (normal : Path.isNormal name = true) {m : Nat}
    (few : n + m ≤ maxLinks)
    (first : Route fs true (base fs.workingDirectory path) path.way n (.existing middle))
    (second : Route fs true middle [.enter name] m (.existing location)) :
    fs.Leads (path.child name) location := by
  have one : ∀ other ∈ [name], Path.isNormal other = true := by simpa using normal
  rw [leads_iff, Path.child, Path.append_way one (List.cons_ne_nil _ _),
    base_congr (Path.append_steps one (List.cons_ne_nil _ _)).1]
  rw [← Path.trim_stem] at first
  exact ⟨n + m, few, (first.of_trim second.directory_of_cons).append second (by simp)⟩

theorem child_entry {name : String} {entry : Entry} (normal : Path.isNormal name = true)
    (leads : fs.Leads path middle) (found : fs.get? (middle ++ [name]) = some entry)
    (plain : ∀ target, entry ≠ .link target) (h : fs.Leads (path.child name) location) :
    location = middle ++ [name] := by
  have one : ∀ other ∈ [name], Path.isNormal other = true := by simpa using normal
  obtain ⟨k, few, route⟩ := leads_iff.mp h
  rw [Path.child, Path.append_way one (List.cons_ne_nil _ _),
    base_congr (Path.append_steps one (List.cons_ne_nil _ _)).1] at route
  obtain ⟨place, n, m, rfl, first, second⟩ := route.split (by simp)
  have first := Path.trim_stem path ▸ first.trim_of_existing
  obtain rfl := leads.unique (leads_iff.mpr ⟨n, by omega, first⟩)
  have no_link : ∀ target, fs.get? (middle ++ [name]) ≠ some (.link target) := by
    intro target linked
    exact plain target (Option.some.inj (found.symm.trans linked))
  obtain ⟨-, ⟨-, -, same⟩ | more⟩ := Route.enter_inv no_link second
  · exact same
  · cases more
    rfl

end Leads

theorem locate_of_changes {directories files : Location → Prop}
    (change : Changes directories files before after) (h : before.locate path = .ok location) :
    after.locate path = .ok location := by
  obtain ⟨accepted, n, few, route⟩ := resolve_eq_ok.mp (locate_eq_ok.mp h)
  rw [locate_eq_ok, resolve_eq_ok, change.workingDirectory]
  exact ⟨accepted, n, few, route.of_changes change⟩

theorem status_of_changes {directories files : Location → Prop} {entry : Entry}
    (change : Changes directories files before after) (h : before.status path = .ok entry)
    (unwritten : ∀ location, before.Leads path location → ¬ files location) :
    after.status path = .ok entry := by
  obtain ⟨location, located, there⟩ := status_eq_ok.mp h
  have leads := Leads.of_locate located
  exact status_eq_ok.mpr ⟨location, locate_of_changes change located,
    change.kept (unwritten location leads) there⟩

section Append

variable (normal : ∀ name ∈ names, Path.isNormal name = true) (filled : names ≠ [])
  (site : fs.Leads path location) (free : fs.LinkFree location)
include filled site free

private theorem route_below (few : n ≤ maxLinks)
    (h : Route fs followLast (base fs.workingDirectory path) (path.stem ++ names.map .enter) n
      target) :
    target.location = location ++ names ∧
      ∀ front, front <+: names → front ≠ names → fs.get? (location ++ front) = some .directory := by
  obtain ⟨middle, k, m, rfl, first, second⟩ := h.split (by simpa using filled)
  have leads : fs.Leads path middle :=
    leads_iff.mpr ⟨k, by omega, Path.trim_stem path ▸ first.trim_of_existing⟩
  obtain rfl := site.unique leads
  exact (second.straight free).2

include normal in
theorem resolve_below (h : fs.resolve followLast (path.append names) = .ok target) :
    target.location = location ++ names ∧
      ∀ front, front <+: names → front ≠ names → fs.get? (location ++ front) = some .directory := by
  obtain ⟨-, n, few, route⟩ := resolve_eq_ok.mp h
  have ⟨abs, steps⟩ : _ ∧ (path.append names).steps = _ := Path.append_steps normal filled
  rw [base_congr abs, steps] at route
  exact route_below filled site free few route

include normal in
theorem leads_below (h : fs.Leads (path.append names) middle) :
    middle = location ++ names ∧
      ∀ front, front <+: names → front ≠ names → fs.get? (location ++ front) = some .directory := by
  obtain ⟨n, few, route⟩ := leads_iff.mp h
  rw [base_congr (Path.append_steps normal filled).1, Path.append_way normal filled] at route
  exact route_below filled site free few route

omit filled site free in
include normal filled in
theorem readBytes_down {contents : ByteArray} {mode : Bool}
    (accepted : (path.down names).refusal? = none) (leads : fs.Leads (path.down names) middle)
    (there : fs.get? middle = some (.file contents mode)) :
    fs.readBytes (path.down names) = .ok contents := by
  rw [Path.down_eq_append normal filled] at *
  obtain ⟨n, few, route⟩ := leads_iff.mp leads
  rw [Path.append_way normal filled, ← (Path.append_steps normal filled).2] at route
  have located := locate_eq_ok.mpr (resolve_eq_ok.mpr ⟨accepted, n, few, route⟩)
  exact readBytes_eq_ok.mpr ⟨mode, status_eq_ok.mpr ⟨middle, located, there⟩⟩

end Append

end FileSystem

end UiScaffold
