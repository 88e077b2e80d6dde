import UiScaffold.FileSystem.Walk
import UiScaffold.Proofs.FileSystem.Growth

/-!
What a walk visits.

The visits of a walk may change the files that it comes to later. When they write at a site only,
and no path below the root of the walk leads into the site or around it, the walk visits the files
that are there in the end: all that are wanted, and nothing else.
-/

set_option autoImplicit false
set_option relaxedAutoImplicit false

namespace UiScaffold

open FileSystem (Changes Route maxLinks Leads IsTree)

def FileSystem.Within (site : Location) (before after : FileSystem) : Prop :=
  Changes (site <+: ·) (site <+: ·) before after

namespace Walk

/-- No path below a root leads into a site or to a directory around it. -/
def Apart (fs : FileSystem) (root : Path) (site : Location) : Prop :=
  ∀ names location, (∀ name ∈ names, Path.isNormal name = true) →
    fs.Leads (root.down names) location → ¬ site <+: location ∧ ¬ location <+: site

structure Known (fs : FileSystem) (root : Path) (names : List String) (location : Location) :
    Prop where
  normal : ∀ name ∈ names, Path.isNormal name = true
  leads : fs.Leads (root.down names) location
  here : fs.get? location = some .directory

structure Wanted (root : Path) (wanted : Asset → Bool) (asset : Asset) : Prop where
  normal : ∀ name ∈ asset.relative, Path.isNormal name = true
  filled : asset.relative ≠ []
  spelled : asset.path = root.down asset.relative
  wanted : wanted asset = true

structure Due (fs : FileSystem) (root : Path) (wanted : Asset → Bool) (names : List String) :
    Prop where
  normal : ∀ name ∈ names, Path.isNormal name = true
  wanted : wanted ⟨root.down names, names⟩ = true
  there : ∃ location contents mode, fs.Leads (root.down names) location ∧
    fs.get? location = some (.file contents mode)

variable {ε : Type} {refuse : WalkError → ε} {wanted : Asset → Bool}
  {visit : Asset → EStateM ε FileSystem Unit} {fs before after last : FileSystem} {root path : Path}
  {site location directory : Location} {names : List String} {name : String} {trail : Trail}
  {entry : Entry}

theorem ask_eq_ok {α : Type} {query : FileSystem → Except OsError α} {a : α} :
    ask path query before = .ok a after ↔ query before = .ok a ∧ after = before := by
  unfold ask
  cases query before <;> simp [eq_comm]

def listing (fs : FileSystem) (location : Location) : List (String × Entry) :=
  (fs.names location).filterMap fun name =>
    (fs.get? (location ++ [name])).map fun entry => (name, entry)

private theorem mem_listing : (name, entry) ∈ listing fs location ↔
    fs.get? (location ++ [name]) = some entry := by
  rw [listing, List.mem_filterMap]
  constructor
  · rintro ⟨other, -, same⟩
    obtain ⟨entry', found, same⟩ := Option.map_eq_some_iff.mp same
    cases same
    exact found
  · intro found
    exact ⟨name, FileSystem.mem_names.mpr ⟨entry, found⟩, by rw [found]; rfl⟩

theorem enter_eq : enter path fs =
    match fs.locateDirectory path with
    | .ok location => .ok (location, listing fs location) fs
    | .error cause => .error (.refused path cause) fs := by
  change EStateM.bind (ask path _) _ fs = _
  unfold EStateM.bind ask
  beta_reduce
  cases fs.locateDirectory path <;> rfl

theorem enter_eq_ok {entries : List (String × Entry)} :
    enter path before = .ok (location, entries) after ↔
      before.locateDirectory path = .ok location ∧ entries = listing before location ∧
        after = before := by
  rw [enter_eq]
  cases before.locateDirectory path with
  | error cause => simp
  | ok place =>
    simp only [EStateM.Result.ok.injEq, Prod.mk.injEq, Except.ok.injEq]
    constructor
    · rintro ⟨⟨rfl, rfl⟩, rfl⟩
      exact ⟨rfl, rfl, rfl⟩
    · rintro ⟨rfl, rfl, rfl⟩
      exact ⟨⟨rfl, rfl⟩, rfl⟩

theorem enter_ok {entries : List (String × Entry)}
    (h : enter path before = .ok (location, entries) after) :
    after = before ∧ before.Leads path location ∧ before.get? location = some .directory ∧
      ∀ name entry, (name, entry) ∈ entries ↔ before.get? (location ++ [name]) = some entry := by
  obtain ⟨found, rfl, same⟩ := enter_eq_ok.mp h
  obtain ⟨located, here⟩ := FileSystem.locateDirectory_eq_ok.mp found
  exact ⟨same, .of_locate located, here, fun name entry => mem_listing⟩

private theorem outside_child (apart : ¬ site <+: directory ∧ ¬ directory <+: site) :
    ¬ site <+: directory ++ [name] := by
  intro inside
  rcases List.prefix_concat_iff.mp inside with rfl | inside
  · exact apart.2 (List.prefix_append _ _)
  · exact apart.1 inside

/-- A directory apart from a site keeps its entries when nothing outside of the site changes. -/
theorem listing_eq (adds : before.Adds after) (within : before.Within site after)
    (apart : ¬ site <+: directory ∧ ¬ directory <+: site) :
    listing after directory = listing before directory := by
  have same (name : String) :
      after.get? (directory ++ [name]) = before.get? (directory ++ [name]) := by
    have outside : ¬ site <+: directory ++ [name] := outside_child apart
    exact within.unchanged outside outside
  have names : after.names directory = before.names directory :=
    adds.names fun name none => (same name).trans none
  simp only [listing, names, same]

theorem leadsDown_ok {down : Bool} (h : leadsDown trail path entry before = .ok down after) :
    after = before ∧
      (entry = .directory ∧ down = true ∨
        (∃ contents mode, entry = .file contents mode) ∧ down = false ∨
        (∃ target, entry = .link target) ∧ ∃ location other, before.Leads path location ∧
          before.get? location = some other ∧ (down = true ↔ other = .directory)) := by
  cases entry with
  | directory =>
    cases h
    exact ⟨rfl, .inl ⟨rfl, rfl⟩⟩
  | file contents mode =>
    cases h
    exact ⟨rfl, .inr (.inl ⟨⟨contents, mode, rfl⟩, rfl⟩)⟩
  | link target =>
    obtain ⟨other, fs, asked, h₁⟩ := Effect.bind_eq_ok.mp h
    obtain ⟨found, rfl⟩ := ask_eq_ok.mp asked
    obtain ⟨location, located, there⟩ := FileSystem.status_eq_ok.mp found
    have end_of_link : after = fs ∧ (down = true ↔ other = .directory) := by
      cases other with
      | directory =>
        obtain ⟨place, fs', asked', h₂⟩ := Effect.bind_eq_ok.mp h₁
        obtain ⟨-, rfl⟩ := ask_eq_ok.mp asked'
        generalize trail.find? _ = looped at h₂
        cases looped <;> cases h₂
        simp
      | file contents mode =>
        cases h₁
        simp
      | link target' =>
        cases h₁
        simp
    exact ⟨end_of_link.1, .inr (.inr ⟨⟨target, rfl⟩, location, other, .of_locate located, there,
      end_of_link.2⟩)⟩

/-- What a walk does about an entry of the directory that it is in. -/
def walkEntry (refuse : WalkError → ε) (wanted : Asset → Bool)
    (visit : Asset → EStateM ε FileSystem Unit) (depth : Nat) (trail : Trail) (path : Path)
    (names : List String) (listed : String × Entry) : EStateM ε FileSystem (List Asset) := do
  let asset : Asset := ⟨path.child listed.1, names ++ [listed.1]⟩
  if ← (leadsDown trail asset.path listed.2).adaptExcept refuse then
    walkFrom refuse wanted visit depth trail asset.path asset.relative
  else if wanted asset then
    visit asset
    return [asset]
  else return []

section Keeps

open Effect (Keeps Same)

private theorem ask_keeps {α : Type} {query : FileSystem → Except OsError α} :
    Keeps (ask path query) Same := by
  constructor
  · intro s a t h
    exact (ask_eq_ok.mp h).2
  · intro s e t h
    unfold ask at h
    split at h <;> cases h
    rfl

theorem enter_keeps : Keeps (enter path) Same := by
  refine .bind Same.trans ask_keeps fun location => ?_
  refine .bind Same.trans ?_ fun fs => .pure Same.refl _
  constructor
  · intro s fs t h
    cases h
    rfl
  · intro s e t h
    cases h

theorem leadsDown_keeps : Keeps (leadsDown trail path entry) Same := by
  cases entry with
  | directory | file => exact .pure Same.refl _
  | link target =>
    refine .bind Same.trans ask_keeps fun entry => ?_
    cases entry with
    | directory =>
      refine .bind Same.trans ask_keeps fun location => ?_
      cases trail.find? (·.2 = location) with
      | none => exact .pure Same.refl _
      | some ancestor => exact .throw Same.refl _
    | file | link => exact .pure Same.refl _

/-- A walk keeps what its visits keep, whether it succeeds or not. A visit may rely on what is known
of names in trees that are ready for it. -/
theorem walkFrom_keeps {R : FileSystem → FileSystem → Prop} {I : FileSystem → Prop}
    {N : String → Prop} (refl : ∀ s, R s s) (trans : ∀ s t u, R s t → R t u → R s u)
    (unready : ∀ s t, ¬ I s → R s t)
    (named : ∀ fs directory name entry, I fs → fs.get? (directory ++ [name]) = some entry → N name)
    (visits : ∀ asset : Asset, (∀ name ∈ asset.relative, N name) → asset.relative ≠ [] →
      Keeps (visit asset) R)
    (depth : Nat) (trail : Trail) (path : Path) (names : List String)
    (spelled : ∀ name ∈ names, N name) :
    Keeps (walkFrom refuse wanted visit depth trail path names) R := by
  induction depth generalizing trail path names with
  | zero => exact .throw refl _
  | succ depth ih =>
    refine .bind_of (I := I) (P := fun found => ∀ e ∈ found.2, N e.1) trans unready
      (.adaptExcept refuse (enter_keeps.mono (Same.elim refl))) ?_ fun (location, entries) known =>
        ?_
    · rintro s ⟨location, entries⟩ t ready entered ⟨name, entry⟩ listed
      obtain ⟨-, -, -, there⟩ := enter_ok (Effect.adaptExcept_eq_ok.mp entered)
      exact named s location name entry ready ((there name entry).mp listed)
    refine .bind trans (.mapM refl trans entries ?_) fun _ => .pure refl _
    rintro ⟨name, entry⟩ listed
    have spelled' : ∀ other ∈ names ++ [name], N other := by
      simpa [or_imp, forall_and, known _ listed] using spelled
    refine .bind trans (.adaptExcept refuse (leadsDown_keeps.mono (Same.elim refl))) fun down => ?_
    cases down with
    | true => exact ih _ _ _ spelled'
    | false =>
      by_cases asked : wanted ⟨path.child name, names ++ [name]⟩ = true
      · simp only [asked, if_true]
        exact .bind trans (visits _ spelled' (by simp)) fun _ => .pure refl _
      · simp only [asked]
        exact .pure refl _

theorem walk_adds (visits : ∀ asset, Keeps (visit asset) FileSystem.Adds) :
    Keeps (walk refuse wanted visit root) FileSystem.Adds :=
  walkFrom_keeps (I := fun _ => True) (N := fun _ => True) FileSystem.Adds.refl
    FileSystem.Adds.trans (fun _ _ unready => absurd trivial unready) (fun _ _ _ _ _ _ => trivial)
    (fun asset _ _ => visits asset) _ _ _ _ (by simp)

end Keeps

private theorem walkFrom_inv {depth : Nat} {assets : List Asset}
    (h : walkFrom refuse wanted visit (depth + 1) trail path names before = .ok assets after) :
    ∃ location entries trail' visited,
      enter path before = .ok (location, entries) before ∧
      entries.mapM (walkEntry refuse wanted visit depth trail' path names) before =
        .ok visited after ∧ assets = visited.flatten := by
  obtain ⟨⟨location, entries⟩, fs, entered, h₁⟩ := Effect.bind_eq_ok.mp h
  have entered := Effect.adaptExcept_eq_ok.mp entered
  obtain ⟨rfl, -⟩ := enter_ok entered
  obtain ⟨visited, fs', all, h₂⟩ := Effect.bind_eq_ok.mp h₁
  cases h₂
  exact ⟨location, entries, _, visited, entered, all, rfl⟩

private theorem walkEntry_inv {depth : Nat} {assets : List Asset}
    (h : walkEntry refuse wanted visit depth trail path names (name, entry) before =
      .ok assets after) :
    ∃ down, leadsDown trail (path.child name) entry before = .ok down before ∧
      (down = true ∧ walkFrom refuse wanted visit depth trail (path.child name) (names ++ [name])
          before = .ok assets after ∨
        down = false ∧ wanted ⟨path.child name, names ++ [name]⟩ = true ∧
          visit ⟨path.child name, names ++ [name]⟩ before = .ok () after ∧
          assets = [⟨path.child name, names ++ [name]⟩] ∨
        down = false ∧ wanted ⟨path.child name, names ++ [name]⟩ = false ∧ after = before ∧
          assets = []) := by
  obtain ⟨down, fs, led, h₁⟩ := Effect.bind_eq_ok.mp h
  have led := Effect.adaptExcept_eq_ok.mp led
  obtain ⟨rfl, -⟩ := leadsDown_ok led
  refine ⟨down, led, ?_⟩
  cases down with
  | true => exact .inl ⟨rfl, h₁⟩
  | false =>
    refine .inr ?_
    cases asked : wanted ⟨path.child name, names ++ [name]⟩ with
    | true =>
      simp only [asked, if_true, Bool.false_eq_true, if_false] at h₁
      obtain ⟨⟨⟩, fs', visited, h₂⟩ := Effect.bind_eq_ok.mp h₁
      cases h₂
      exact .inl ⟨rfl, rfl, visited, rfl⟩
    | false =>
      simp only [asked, Bool.false_eq_true, if_false] at h₁
      cases h₁
      exact .inr ⟨rfl, rfl, rfl, rfl⟩

private theorem due_inv {rest : List String} (known : Known fs root names directory)
    (due : Due fs root wanted (names ++ name :: rest)) :
    (∃ entry, fs.get? (directory ++ [name]) = some entry) ∧
      ∃ location entry, fs.Leads (root.down (names ++ [name])) location ∧
        fs.get? location = some entry ∧
        (rest = [] ∧ entry ≠ .directory ∨ rest ≠ [] ∧ entry = .directory) := by
  obtain ⟨location, contents, mode, leads, there⟩ := due.there
  have normal : ∀ other ∈ name :: rest, Path.isNormal other = true :=
    fun other h => due.normal other (List.mem_append_right names h)
  rw [Path.down_append, Path.down_eq_append normal (List.cons_ne_nil _ _)] at leads
  obtain ⟨k, few, route⟩ := FileSystem.leads_iff.mp leads
  rw [Path.append_way normal (List.cons_ne_nil _ _),
    FileSystem.base_congr (Path.append_steps normal (List.cons_ne_nil _ _)).1] at route
  obtain ⟨place, n, m, rfl, first, second⟩ := route.split (by simp)
  have first := Path.trim_stem (root.down names) ▸ first.trim_of_existing
  obtain rfl := known.leads.unique (FileSystem.leads_iff.mpr ⟨n, by omega, first⟩)
  rw [List.map_cons] at second
  refine ⟨second.get?_of_enter, ?_⟩
  cases rest with
  | nil =>
    refine ⟨location, _, ?_, there, .inl ⟨rfl, by simp⟩⟩
    exact Path.down_concat ▸ Leads.child (normal name List.mem_cons_self) few first second
  | cons other rest =>
    rw [← List.singleton_append] at second
    obtain ⟨middle, i, j, rfl, one, more⟩ := second.split (by simp)
    refine ⟨middle, .directory, ?_, more.directory_of_cons, .inr ⟨List.cons_ne_nil _ _, rfl⟩⟩
    exact Path.down_concat ▸
      Leads.child (normal name List.mem_cons_self) (by omega) first one

/-- Below a directory without links, no path leads to a site that is neither in it nor around it. -/
theorem Apart.of_linkFree (leads : fs.Leads root directory) (free : fs.LinkFree directory)
    (apart : ¬ site <+: directory ∧ ¬ directory <+: site) : Apart fs root site := by
  intro names location normal reached
  have place : location = directory ++ names := by
    rcases names.eq_nil_or_concat with rfl | ⟨front, last, rfl⟩
    · rw [List.append_nil]
      exact reached.unique leads
    · have filled : front.concat last ≠ [] := by simp
      rw [Path.down_eq_append normal filled] at reached
      exact (FileSystem.leads_below normal filled leads free reached).1
  subst place
  refine ⟨fun inside => ?_, fun around => apart.2 ((List.prefix_append _ _).trans around)⟩
  rcases List.prefix_or_prefix_of_prefix inside (List.prefix_append directory names) with h | h
  · exact apart.1 h
  · exact apart.2 h

private theorem leadsDown_iff {down : Bool} (apart : Apart last root site)
    (within : fs.Within site last)
    (known : Known last root names directory) (normal : Path.isNormal name = true)
    (found : last.get? (directory ++ [name]) = some entry)
    (led : leadsDown trail (root.down (names ++ [name])) entry fs = .ok down fs)
    {other : Entry} (leads : last.Leads (root.down (names ++ [name])) location)
    (there : last.get? location = some other) : down = true ↔ other = .directory := by
  have plain : (∀ target, entry ≠ .link target) → other = entry := by
    intro no_link
    rw [Path.down_concat] at leads
    obtain rfl := Leads.child_entry normal known.leads found no_link leads
    exact Option.some.inj (there.symm.trans found)
  rcases (leadsDown_ok led).2 with ⟨rfl, rfl⟩ | ⟨⟨contents, mode, rfl⟩, rfl⟩ | ⟨⟨target, rfl⟩, link⟩
  · simp [plain (by simp)]
  · simp [plain (by simp)]
  · obtain ⟨location', other', leads', there', down_iff⟩ := link
    obtain rfl := leads.unique (leads'.of_changes within)
    have all_normal : ∀ other ∈ names ++ [name], Path.isNormal other = true := by
      simpa [or_imp, forall_and, normal] using known.normal
    have outside := (apart _ _ all_normal leads).1
    rw [within.kept outside there', Option.some.injEq] at there
    exact there ▸ down_iff

/-- Visits that write at a site only, and keep what is true of the files from one to the next. -/
structure Visits (site : Location) (visit : Asset → EStateM ε FileSystem Unit)
    (I : FileSystem → Prop) : Prop where
  tree : ∀ fs, I fs → fs.IsTree
  step : ∀ asset before after, (∀ name ∈ asset.relative, Path.isNormal name = true) →
    asset.relative ≠ [] → I before → visit asset before = .ok () after →
    I after ∧ before.Within site after

/-- What a walk has done. -/
structure Walked (root : Path) (site : Location) (wanted : Asset → Bool)
    (visit : Asset → EStateM ε FileSystem Unit) (I : FileSystem → Prop) (assets : List Asset)
    (before after : FileSystem) : Prop where
  kept : I after
  within : before.Within site after
  visited : assets.forM visit before = .ok () after
  wanted : ∀ asset ∈ assets, Wanted root wanted asset

/-- Assets among which are all that are due below a directory. -/
def Covers (fs : FileSystem) (root : Path) (wanted : Asset → Bool) (names : List String)
    (assets : List Asset) : Prop :=
  ∀ rest, rest ≠ [] → Due fs root wanted (names ++ rest) →
    ∃ asset ∈ assets, asset.relative = names ++ rest

section Walked

variable {I : FileSystem → Prop} {assets : List Asset} {depth : Nat}
  (apart : Apart last root site) (visits : Visits site visit I)

include apart visits in
private theorem walkEntry_ok
    (below : ∀ names trail before after assets, (∀ name ∈ names, Path.isNormal name = true) →
      I before →
      walkFrom refuse wanted visit depth trail (root.down names) names before = .ok assets after →
      Walked root site wanted visit I assets before after ∧
        (after.Within site last → Covers last root wanted names assets))
    (normal : ∀ other ∈ names ++ [name], Path.isNormal other = true) (kept : I before)
    (here : before.Within site last →
      Known last root names directory ∧ last.get? (directory ++ [name]) = some entry)
    (h : walkEntry refuse wanted visit depth trail (root.down names) names (name, entry) before =
      .ok assets after) :
    Walked root site wanted visit I assets before after ∧ (after.Within site last →
      ∀ rest, Due last root wanted (names ++ name :: rest) →
        ∃ asset ∈ assets, asset.relative = names ++ name :: rest) := by
  obtain ⟨down, led, done⟩ := walkEntry_inv h
  rw [← Path.down_concat] at led done
  -- A wanted file behind the entry tells whether the entry leads down.
  have due_down (within : before.Within site after) (later : after.Within site last)
      (rest : List String) (due : Due last root wanted (names ++ name :: rest)) :
      rest = [] ∧ down = false ∨ rest ≠ [] ∧ down = true := by
    obtain ⟨known, found⟩ := here (within.trans later)
    obtain ⟨-, location, other, leads, there, kind⟩ := due_inv known due
    have name_normal := normal name (by simp)
    have down_iff :=
      leadsDown_iff apart (within.trans later) known name_normal found led leads there
    rcases kind with ⟨rfl, file⟩ | ⟨more, directory⟩
    · exact .inl ⟨rfl, Bool.eq_false_iff.mpr fun h => file (down_iff.mp h)⟩
    · exact .inr ⟨more, down_iff.mpr directory⟩
  rcases done with ⟨rfl, walked⟩ | ⟨rfl, asked, visited, rfl⟩ | ⟨rfl, asked, rfl, rfl⟩
  · obtain ⟨done, covers⟩ := below _ _ _ _ _ normal kept walked
    refine ⟨done, fun later rest due => ?_⟩
    rcases due_down done.within later rest due with ⟨-, h⟩ | ⟨more, -⟩
    · cases h
    · rw [List.append_cons] at due ⊢
      exact covers later rest more due
  · obtain ⟨kept', within⟩ := visits.step _ _ _ normal (by simp) kept visited
    refine ⟨⟨kept', within, Effect.bind_eq_ok.mpr ⟨(), after, visited, rfl⟩, ?_⟩, ?_⟩
    · intro asset listed
      rw [List.mem_singleton.mp listed]
      exact ⟨normal, by simp, rfl, asked⟩
    · intro later rest due
      rcases due_down within later rest due with ⟨rfl, -⟩ | ⟨-, h⟩
      · exact ⟨_, List.mem_singleton_self _, rfl⟩
      · cases h
  · refine ⟨⟨kept, Changes.refl, rfl, by simp⟩, fun later rest due => ?_⟩
    rcases due_down Changes.refl later rest due with ⟨rfl, -⟩ | ⟨-, h⟩
    · rw [due.wanted] at asked
      cases asked
    · cases h

include apart visits in
private theorem walkFrom_ok (normal : ∀ name ∈ names, Path.isNormal name = true) (kept : I before)
    (h : walkFrom refuse wanted visit depth trail (root.down names) names before =
      .ok assets after) :
    Walked root site wanted visit I assets before after ∧
      (after.Within site last → Covers last root wanted names assets) := by
  induction depth generalizing names trail before after assets with
  | zero => cases h
  | succ depth ih =>
    obtain ⟨directory, entries, trail', visited, entered, all, rfl⟩ := walkFrom_inv h
    obtain ⟨-, leads, here, listed⟩ := enter_ok entered
    have known (later : before.Within site last) : Known last root names directory :=
      ⟨normal, leads.of_changes later, later.directory here⟩
    have unchanged (later : before.Within site last) (name : String) :
        last.get? (directory ++ [name]) = before.get? (directory ++ [name]) := by
      have outside : ¬ site <+: directory ++ [name] :=
        outside_child (apart names directory normal (known later).leads)
      exact later.unchanged outside outside
    obtain ⟨⟨kept', within⟩, -, visits_all, all_wanted, lists⟩ :=
      Effect.mapM_flatten (I := fun fs => I fs ∧ before.Within site fs)
        (R := FileSystem.Within site)
        (P := fun listed bs => ∀ rest, Due last root wanted (names ++ listed.1 :: rest) →
          ∃ asset ∈ bs, asset.relative = names ++ listed.1 :: rest)
        last visit (fun _ => Changes.refl) (fun _ _ _ => Changes.trans) (by
          rintro ⟨name, entry⟩ member fs bs fs' ⟨kept_fs, within_fs⟩ walked
          have found := (listed name entry).mp member
          have name_normal := (visits.tree before kept).normal directory name entry found
          have all_normal : ∀ other ∈ names ++ [name], Path.isNormal other = true := by
            simpa [or_imp, forall_and, name_normal] using normal
          obtain ⟨done, covers⟩ := walkEntry_ok apart visits (fun _ _ _ _ _ => ih) all_normal
            kept_fs (fun later => ⟨known (within_fs.trans later),
              (unchanged (within_fs.trans later) name).trans found⟩) walked
          exact ⟨⟨done.kept, within_fs.trans done.within⟩, done.within, done.visited, done.wanted,
            covers⟩)
        all ⟨kept, Changes.refl⟩
    refine ⟨⟨kept', within, visits_all, all_wanted⟩, fun later rest more due => ?_⟩
    have since := within.trans later
    obtain ⟨name, rest, rfl⟩ := List.exists_cons_of_ne_nil more
    obtain ⟨⟨entry, found⟩, -⟩ := due_inv (known since) due
    rw [unchanged since] at found
    obtain ⟨bs, member_list, covers⟩ := lists later (name, entry) ((listed name entry).mpr found)
    obtain ⟨asset, member, same⟩ := covers rest due
    exact ⟨asset, List.mem_flatten.mpr ⟨bs, member_list, member⟩, same⟩

include apart visits in
theorem walk_ok (kept : I before) (h : walk refuse wanted visit root before = .ok assets after) :
    Walked root site wanted visit I assets before after ∧
      (after.Within site last → Covers last root wanted [] assets) := by
  have normal : ∀ name ∈ ([] : List String), Path.isNormal name = true := by simp
  exact walkFrom_ok apart visits normal kept h

end Walked

end Walk

end UiScaffold
