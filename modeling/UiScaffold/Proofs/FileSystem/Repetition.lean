import UiScaffold.Proofs.FileSystem.Below
import UiScaffold.Proofs.FileSystem.Walk

/-!
Steps that are taken again.

A step below a site that has succeeded can be taken again, however much came after it. It succeeds
again and gives the same, it finds the directories that it made, and it writes the same files once
more. Sequences and walks of such steps are such steps.
-/

set_option autoImplicit false
set_option relaxedAutoImplicit false

namespace UiScaffold

open FileSystem (Changes Open)

/-- What stands in a place before and after a step, and before and after the step is taken again.
The place is left alone both times, or a directory is made there the first time only, or a file is
written there both times: with the same contents, and with a mode that is set or kept. -/
inductive Echo : Option Entry → Option Entry → Option Entry → Option Entry → Prop
  | left {old old' : Option Entry} : Echo old old old' old'
  | made {old' : Option Entry} : Echo none (some .directory) old' old'
  | written {old old' : Option Entry} {contents : ByteArray} (mark : Option Bool) :
      old ≠ some .directory →
      Echo old (some (.file contents (mark.getD (Entry.modeOr false old))))
        old' (some (.file contents (mark.getD (Entry.modeOr false old'))))

namespace Echo

variable {old middle new old' middle' new' : Option Entry}

private theorem trans (first : Echo old middle old' middle')
    (second : Echo middle new middle' new') : Echo old new old' new' := by
  cases first with
  | left => exact second
  | made =>
    cases second with
    | left => exact .made
    | written _ free => exact absurd rfl free
  | written mark free =>
    cases second with
    | left => exact .written mark free
    | written mark' _ =>
      -- A mode that is kept is the one that was set before, if any was.
      cases mark' with
      | none => exact .written mark free
      | some mode => exact .written (some mode) free

theorem eq (h : Echo old new new new') : new' = new := by
  cases h with
  | left | made => rfl
  | written mark => cases mark <;> rfl

end Echo

namespace FileSystem

/-- What stands before and after a step, and before and after the step is taken again. -/
def Echoes (before after before' after' : FileSystem) : Prop :=
  ∀ location, Echo (before.get? location) (after.get? location) (before'.get? location)
    (after'.get? location)

/-- What may come of a tree when directories are made and files are written at a site. -/
structure Follows (site : Location) (before after : FileSystem) : Prop where
  adds : before.Adds after
  within : before.Within site after
  tree : before.IsTree → after.IsTree

structure Ready (output : Path) (site : Location) (fs : FileSystem) : Prop where
  site_open : fs.Open output site
  tree : fs.IsTree

variable {before middle after : FileSystem} {output : Path} {site location : Location}

theorem Follows.refl (fs : FileSystem) : Follows site fs fs := ⟨.nothing, Changes.refl, id⟩

private theorem Follows.trans (first : Follows site before middle)
    (second : Follows site middle after) : Follows site before after :=
  ⟨.trans _ _ _ first.adds second.adds, Changes.trans first.within second.within,
    second.tree ∘ first.tree⟩

theorem Ready.of_follows (ready : Ready output site before) (h : Follows site before after) :
    Ready output site after :=
  ⟨ready.site_open.of_changes h.within, h.tree ready.tree⟩

private theorem Follows.of_stores {names : List String} {contents : ByteArray}
    (adds : before.Adds after)
    (stored : Stores (site ++ names) contents before after) : Follows site before after := by
  refine ⟨adds, stored.changes.mono (fun _ _ none => none.elim) ?_, stored.tree⟩
  rintro location rfl
  exact List.prefix_append _ _

private theorem Follows.outside (h : Follows site before after) (outside : ¬ site <+: location) :
    after.get? location = before.get? location := h.within.unchanged outside outside

private theorem Echoes.put {before' : FileSystem} {contents : ByteArray} (mark : Option Bool)
    (free : before.Writable location) (free' : before'.Writable location) :
    Echoes before
      (before.put location (.file contents (mark.getD (Entry.modeOr false (before.get? location)))))
      before' (before'.put location
        (.file contents (mark.getD (Entry.modeOr false (before'.get? location))))) := by
  intro other
  by_cases same : other = location
  · subst same
    rw [free.get?_put, free'.get?_put]
    exact .written mark free.ne_directory
  · rw [get?_put_of_ne same, get?_put_of_ne same]
    exact .left

end FileSystem

open FileSystem (Echoes Follows Ready)

variable {ε ε' σ α β : Type} {output : Path} {site : Location} {last : FileSystem}
  {view : σ → FileSystem}

/-- A step that can be taken again, when nothing but further steps at the site has come between: up
to a last state, and after it. -/
structure Repeats (output : Path) (site : Location) (last : FileSystem) (view : σ → FileSystem)
    (x : EStateM ε σ α) : Prop where
  follows : ∀ s a t, Ready output site (view s) → x s = .ok a t → Follows site (view s) (view t)
  again : ∀ s a t s', Ready output site (view s) → x s = .ok a t →
    Follows site (view t) last → Follows site last (view s') →
    ∃ t', x s' = .ok a t' ∧ Echoes (view s) (view t) (view s') (view t')

namespace Repeats

private theorem of_files {x : EStateM ε FileSystem α}
    (follows : ∀ fs a fs', Ready output site fs → x fs = .ok a fs' → Follows site fs fs')
    (again : ∀ before a after before', Ready output site before → x before = .ok a after →
      Follows site after last → Follows site last before' →
      ∃ after', x before' = .ok a after' ∧ Echoes before after before' after') :
    Repeats output site last id x := ⟨follows, again⟩

theorem pure (a : α) : Repeats output site last view (Pure.pure a : EStateM ε σ α) := by
  constructor
  · intro s b t _ h
    cases h
    exact .refl _
  · intro s b t s' _ h _ _
    cases h
    exact ⟨s', rfl, fun _ => .left⟩

private theorem throw (e : ε) :
    Repeats output site last view (MonadExcept.throw e : EStateM ε σ α) := by
  constructor
  · intro s a t _ h
    cases h
  · intro s a t s' _ h
    cases h

private theorem query {x : EStateM ε σ α} (quiet : ∀ s a t, x s = .ok a t → t = s)
    (same : ∀ s a s', Ready output site (view s) → x s = .ok a s → Follows site (view s) last →
      Follows site last (view s') → x s' = .ok a s') :
    Repeats output site last view x := by
  constructor
  · intro s a t _ h
    obtain rfl := quiet s a t h
    exact .refl _
  · intro s a t s' ready h before after
    obtain rfl := quiet s a t h
    exact ⟨s', same t a s' ready h before after, fun _ => .left⟩

theorem adaptExcept {x : EStateM ε' σ α} (f : ε' → ε) (hx : Repeats output site last view x) :
    Repeats output site last view (x.adaptExcept f) := by
  constructor
  · intro s a t ready h
    exact hx.follows s a t ready (Effect.adaptExcept_eq_ok.mp h)
  · intro s a t s' ready h before after
    obtain ⟨t', again, echoes⟩ :=
      hx.again s a t s' ready (Effect.adaptExcept_eq_ok.mp h) before after
    exact ⟨t', Effect.adaptExcept_eq_ok.mpr again, echoes⟩

private theorem bind_of {P : α → Prop} {x : EStateM ε σ α} {f : α → EStateM ε σ β}
    (hx : Repeats output site last view x)
    (gives : ∀ s a t, Ready output site (view s) → x s = .ok a t → P a)
    (hf : ∀ a, P a → Repeats output site last view (f a)) :
    Repeats output site last view (x >>= f) := by
  constructor
  · intro s b t ready h
    obtain ⟨a, u, first, second⟩ := Effect.bind_eq_ok.mp h
    have grown := hx.follows s a u ready first
    exact grown.trans
      ((hf a (gives s a u ready first)).follows u b t (ready.of_follows grown) second)
  · intro s b t s' ready h before after
    obtain ⟨a, u, first, second⟩ := Effect.bind_eq_ok.mp h
    have more := hf a (gives s a u ready first)
    have grown := hx.follows s a u ready first
    have ready_u := ready.of_follows grown
    have since := (more.follows u b t ready_u second).trans before
    obtain ⟨u', first', echoes⟩ := hx.again s a u s' ready first since after
    have ready' := (ready_u.of_follows since).of_follows after
    have after' := after.trans (hx.follows s' a u' ready' first')
    obtain ⟨t', second', echoes'⟩ := more.again u b t u' ready_u second before after'
    exact ⟨t', Effect.bind_eq_ok.mpr ⟨a, u', first', second'⟩,
      fun location => (echoes location).trans (echoes' location)⟩

theorem bind {x : EStateM ε σ α} {f : α → EStateM ε σ β} (hx : Repeats output site last view x)
    (hf : ∀ a, Repeats output site last view (f a)) :
    Repeats output site last view (x >>= f) :=
  bind_of (P := fun _ => True) hx (fun _ _ _ _ _ => trivial) fun a _ => hf a

private theorem mapM {f : α → EStateM ε σ β} (items : List α)
    (hf : ∀ a ∈ items, Repeats output site last view (f a)) :
    Repeats output site last view (items.mapM f) := by
  induction items with
  | nil => exact pure []
  | cons a rest ih =>
    rw [List.mapM_cons]
    have more := ih fun b hb => hf b (List.mem_cons_of_mem a hb)
    exact (hf a List.mem_cons_self).bind fun b => more.bind fun bs => pure _

theorem onFiles {x : EStateM ε FileSystem α} (hx : Repeats output site last id x) :
    Repeats output site last Workspace.files (Work.onFiles x) := by
  constructor
  · intro w a w' ready h
    exact hx.follows _ a _ ready (Effect.onFiles_eq_ok.mp h).1
  · intro w a w' v ready h before after
    obtain ⟨files, again, echoes⟩ :=
      hx.again _ a _ v.files ready (Effect.onFiles_eq_ok.mp h).1 before after
    exact ⟨⟨files, v.journal⟩, Effect.onFiles_eq_ok.mpr ⟨again, rfl⟩, echoes⟩

theorem report (event : Event) :
    Repeats output site last Workspace.files (Work.report event : Work ε Unit) := by
  constructor
  · intro w a w' _ h
    cases h
    exact .refl _
  · intro w a w' v _ h _ _
    cases h
    exact ⟨_, rfl, fun _ => .left⟩

theorem making {x : EStateM ε FileSystem Unit} (adds : Effect.Keeps x FileSystem.Adds)
    (below : ∀ fs fs', fs.Open output site → x fs = .ok () fs' →
      Changes (site <+: ·) (fun _ => False) fs fs' ∧ (fs.IsTree → fs'.IsTree))
    (again : ∀ fs made fs', x fs = .ok () made → made.Grows fs' → x fs' = .ok () fs') :
    Repeats output site last id x := by
  refine .of_files ?_ ?_
  · rintro fs ⟨⟩ fs' ready h
    obtain ⟨changes, tree⟩ := below fs fs' ready.site_open h
    exact ⟨adds.ok fs () fs' h, changes.mono (fun _ _ inside => inside) fun _ none =>
      none.elim, tree⟩
  · rintro fs ⟨⟩ made fs' ready h before after
    refine ⟨fs', again fs made fs' h (before.trans after).adds.grows, fun location => ?_⟩
    obtain ⟨changes, -⟩ := below fs made ready.site_open h
    have unwritten : made.get? location = fs.get? location ∨ _ := changes.unwritten id
    rcases unwritten with same | ⟨vacant, there⟩
    · exact same ▸ .left
    · rw [vacant, there]
      exact .made

end Repeats

section Below

variable {names names' : List String} {root : Path}
  (normal : ∀ name ∈ names, Path.isNormal name = true) (filled : names ≠ [])
include normal filled

theorem Repeats.store (contents : ByteArray) :
    Repeats output site last id (FileAction.store (output.append names) contents false) := by
  refine .of_files ?_ ?_
  · rintro fs ⟨⟩ fs' ready h
    obtain ⟨stored, -⟩ := FileAction.store_below ready.site_open normal filled h
    exact .of_stores (FileAction.store_adds.ok _ _ _ h) stored
  · rintro fs ⟨⟩ stored fs' ready h before after
    have grows := (before.trans after).adds.grows
    obtain ⟨target, found, free, rfl⟩ := FileAction.store_cases h
    have located := FileSystem.locate_of_changes grows (FileAction.locate_put found free)
    obtain ⟨old, oldMode, there⟩ :=
      grows.file free.get?_put
    have echoes := @FileSystem.Echoes.put fs target.location fs' contents none free
      (.inr ⟨old, oldMode, there⟩)
    rw [there] at echoes
    exact ⟨_, FileAction.store_again located there, echoes⟩

theorem Repeats.copy (apart : Walk.Apart last root site)
    (normal' : ∀ name ∈ names', Path.isNormal name = true) :
    Repeats output site last id (FileAction.copy (root.down names') (output.append names)) := by
  have follows (fs fs' : FileSystem) (ready : Ready output site fs)
      (h : FileAction.copy (root.down names') (output.append names) fs = .ok () fs') :
      Follows site fs fs' := by
    obtain ⟨_, _, stored, -⟩ := FileAction.copy_below ready.site_open normal filled h
    exact .of_stores (FileAction.copy_adds.ok _ _ _ h) stored
  refine .of_files (fun fs _ => follows fs) ?_
  rintro fs ⟨⟩ copied fs' ready h before after
  have later := before.trans after
  have step := follows fs copied ready h
  obtain ⟨place, target, contents, mode, sourced, found, free, held, rfl⟩ :=
    FileAction.copy_cases h
  have inside : site <+: target.location := by
    obtain ⟨below, -⟩ := FileSystem.resolve_below normal filled ready.site_open.leads
      ready.site_open.free found
    exact below ▸ List.prefix_append _ _
  have outside : ¬ site <+: place :=
    (apart _ _ normal' ((FileSystem.Leads.of_locate sourced).of_changes
      (step.trans before).within)).1
  have away : place ≠ target.location := fun same => outside (same ▸ inside)
  -- The source is what it was, and the copy is written over the one that was made.
  have sourced' := FileSystem.locate_of_changes (step.trans later).within sourced
  have held' := ((step.trans later).outside outside).trans (held away)
  have located := FileSystem.locate_of_changes later.within (FileAction.locate_put found free)
  obtain ⟨old, oldMode, there⟩ :=
    later.adds.grows.file free.get?_put
  exact ⟨_, FileAction.copy_again sourced' held' located there away,
    .put (some mode) free (.inr ⟨old, oldMode, there⟩)⟩

end Below

namespace Walk

variable {refuse : WalkError → ε} {wanted : Asset → Bool}
  {visit : Asset → EStateM ε FileSystem Unit} {root path : Path} {names : List String}
  {trail : Trail} {entry : Entry} (apart : Apart last root site)
  (normal : ∀ name ∈ names, Path.isNormal name = true)

private theorem ask_repeats {query : FileSystem → Except OsError α}
    (same : ∀ before after a, query before = .ok a → Follows site before last →
      Follows site last after → query after = .ok a) :
    Repeats output site last id (ask path query) := by
  refine .query (fun fs a fs' h => (ask_eq_ok.mp h).2) fun before a after _ h earlier later => ?_
  exact ask_eq_ok.mpr ⟨same before after a (ask_eq_ok.mp h).1 earlier later, rfl⟩

include apart normal

private theorem enter_repeats : Repeats output site last id (enter (root.down names)) := by
  refine .query (fun fs a fs' h => (enter_ok h).1) ?_
  rintro before ⟨location, entries⟩ after _ h earlier later
  obtain ⟨found, rfl, -⟩ := enter_eq_ok.mp h
  obtain ⟨located, here⟩ := FileSystem.locateDirectory_eq_ok.mp found
  have since : Follows site before after := earlier.trans later
  have leads := (FileSystem.Leads.of_locate located).of_changes earlier.within
  have same := listing_eq since.adds since.within (apart names location normal leads)
  have found' := FileSystem.locateDirectory_eq_ok.mpr
    ⟨FileSystem.locate_of_changes since.within located, since.within.directory here⟩
  exact enter_eq_ok.mpr ⟨found', same.symm, rfl⟩

private theorem leadsDown_repeats :
    Repeats output site last id (leadsDown trail (root.down names) entry) := by
  cases entry with
  | directory | file => exact .pure _
  | link target =>
    have status : Repeats output site last id
        (ask (root.down names) (·.status (root.down names))) :=
      ask_repeats fun before after _ found earlier later =>
        FileSystem.status_of_changes (earlier.trans later).within found fun location leads =>
          (apart names location normal (leads.of_changes earlier.within)).1
    have located : Repeats output site last id
        (ask (root.down names) (·.locate (root.down names))) :=
      ask_repeats fun before after _ found earlier later =>
        FileSystem.locate_of_changes (earlier.trans later).within found
    refine .bind status fun other => ?_
    cases other with
    | directory =>
      refine .bind located fun location => ?_
      cases trail.find? (·.2 = location) with
      | none => exact .pure _
      | some ancestor => exact .throw _
    | file | link => exact .pure _

omit normal in
/-- A walk apart from a site whose visits can be made again can be taken again. -/
theorem walkFrom_repeats
    (visits : ∀ asset : Asset, (∀ name ∈ asset.relative, Path.isNormal name = true) →
      asset.relative ≠ [] → asset.path = root.down asset.relative →
      Repeats output site last id (visit asset))
    (depth : Nat) (trail : Trail) (names : List String)
    (normal : ∀ name ∈ names, Path.isNormal name = true) :
    Repeats output site last id
      (walkFrom refuse wanted visit depth trail (root.down names) names) := by
  induction depth generalizing trail names with
  | zero => exact .throw _
  | succ depth ih =>
    refine .bind_of (P := fun found => ∀ e ∈ found.2, Path.isNormal e.1 = true)
      (.adaptExcept refuse (enter_repeats apart normal)) ?_ fun (directory, entries) known => ?_
    · rintro fs ⟨directory, entries⟩ fs' ready entered ⟨name, entry⟩ listed
      obtain ⟨-, -, -, there⟩ := enter_ok (Effect.adaptExcept_eq_ok.mp entered)
      exact ready.tree.normal directory name entry ((there name entry).mp listed)
    refine .bind (.mapM entries ?_) fun _ => .pure _
    rintro ⟨name, entry⟩ listed
    have normal' : ∀ other ∈ names ++ [name], Path.isNormal other = true := by
      simpa [or_imp, forall_and, known _ listed] using normal
    simp only [← Path.down_concat]
    refine .bind (.adaptExcept refuse (leadsDown_repeats apart normal')) fun down => ?_
    cases down with
    | true => exact ih _ _ normal'
    | false =>
      by_cases asked : wanted ⟨root.down (names ++ [name]), names ++ [name]⟩ = true
      · simp only [asked, if_true]
        exact .bind (visits _ normal' (by simp) rfl) fun _ => .pure _
      · simp only [asked]
        exact .pure _

end Walk

end UiScaffold
