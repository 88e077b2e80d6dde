import UiScaffold.Proofs.FileSystem.Tour

/-!
What a visit may rely on.

A walk lists a directory when it enters it, and visits the files of the list later, when earlier
visits may have changed the files. As long as visits take nothing away, what a walk visits is still
a file then, and stays one.
-/

set_option autoImplicit false
set_option relaxedAutoImplicit false

namespace UiScaffold.Walk

open Effect (Keeps Same)
open FileSystem (Changes Grows Leads)

/-- What a walk is about to visit: something wanted that leads to a file now and later on, if it
leads to anything. -/
structure Visited (fs : FileSystem) (root : Path) (wanted : Asset → Bool) (asset : Asset) : Prop
    extends Wanted root wanted asset where
  file : ∀ later entry, fs.Grows later → later.status asset.path = .ok entry →
    ∃ contents mode, entry = .file contents mode

theorem Visited.later {fs later : FileSystem} {root : Path} {wanted : Asset → Bool} {asset : Asset}
    (h : Visited fs root wanted asset) (grows : fs.Grows later) : Visited later root wanted asset :=
  ⟨h.toWanted, fun last entry grows' => h.file last entry (Changes.trans grows grows')⟩

variable {ε : Type} {refuse : WalkError → ε} {wanted : Asset → Bool}
  {visit : Asset → EStateM ε FileSystem Unit} {fs later : FileSystem} {root : Path}
  {directory : Location} {names : List String} {name : String} {trail : Trail} {entry : Entry}

private theorem visited_of_leadsDown (tree : later.IsTree)
    (normal : ∀ other ∈ names ++ [name], Path.isNormal other = true)
    (leads : fs.Leads (root.down names) directory)
    (there : fs.get? (directory ++ [name]) = some entry) (grows : fs.Grows later)
    (asked : wanted ⟨root.down (names ++ [name]), names ++ [name]⟩ = true)
    (led : leadsDown trail (root.down (names ++ [name])) entry later = .ok false later) :
    Visited later root wanted ⟨root.down (names ++ [name]), names ++ [name]⟩ := by
  refine ⟨⟨normal, by simp, rfl, asked⟩, fun last other since status => ?_⟩
  have total := Changes.trans grows since
  obtain ⟨location, located, found⟩ := FileSystem.status_eq_ok.mp status
  have reached := Leads.of_locate located
  rcases (leadsDown_ok led).2 with ⟨-, down⟩ | ⟨⟨contents, mode, rfl⟩, -⟩ | ⟨-, link⟩
  · cases down
  · obtain ⟨contents', mode', there'⟩ := total.file there
    rw [Path.down_concat] at reached
    obtain rfl := Leads.child_entry (normal name (by simp)) (leads.of_changes total) there'
      (by simp) reached
    exact ⟨contents', mode', Option.some.inj (found.symm.trans there')⟩
  · -- What the link leads to is no directory, and it is no link as it is followed.
    obtain ⟨location', other', leads', found', down_iff⟩ := link
    obtain rfl := (leads'.of_changes since).unique reached
    have way : (root.down (names ++ [name])).way ≠ [] := by
      rw [Path.down_eq_append normal (by simp), Path.append_way normal (by simp)]
      simp
    cases other' with
    | directory => simp at down_iff
    | file contents mode =>
      obtain ⟨contents', mode', there'⟩ := since.file found'
      exact ⟨contents', mode', Option.some.inj (found.symm.trans there')⟩
    | link target => exact absurd found' (leads'.not_link tree way target)

section Keeps

variable {R : FileSystem → FileSystem → Prop} (refl : ∀ s, R s s)
  (trans : ∀ s t u, R s t → R t u → R s u) (grows : ∀ s t, R s t → s.Grows t)
  (tree : ∀ s t, R s t → s.IsTree → t.IsTree)
  (visits : ∀ asset, Keeps (visit asset) fun s t => Visited s root wanted asset → R s t)

include refl visits in
private theorem walkEntry_visits {depth : Nat}
    (below : ∀ names, (∀ name ∈ names, Path.isNormal name = true) →
      Keeps (walkFrom refuse wanted visit depth trail (root.down names) names)
        fun s t => s.IsTree → R s t)
    (normal : ∀ other ∈ names ++ [name], Path.isNormal other = true)
    (leads : fs.Leads (root.down names) directory)
    (there : fs.get? (directory ++ [name]) = some entry) :
    Keeps (walkEntry refuse wanted visit depth trail (root.down names) names (name, entry))
      fun s t => fs.Grows s → s.IsTree → R s t := by
  have spelled : (root.down names).child name = root.down (names ++ [name]) :=
    Path.down_concat.symm
  simp only [walkEntry, spelled]
  refine .bind_via
    (S := fun s down s' => s' = s ∧
      leadsDown trail (root.down (names ++ [name])) entry s = .ok down s)
    (T := fun down s t => leadsDown trail (root.down (names ++ [name])) entry s = .ok down s →
      fs.Grows s → s.IsTree → R s t) ?_ ?_ (fun down => ?_) ?_
  · intro s down s' h
    have led := Effect.adaptExcept_eq_ok.mp h
    obtain ⟨rfl, -⟩ := leadsDown_ok led
    exact ⟨rfl, led⟩
  · intro s e s' h _ _
    exact Same.elim refl _ _ ((Keeps.adaptExcept refuse leadsDown_keeps).error s e s' h)
  · cases down with
    | true => exact (below _ normal).mono fun s t h _ _ is_tree => h is_tree
    | false =>
      by_cases asked : wanted ⟨root.down (names ++ [name]), names ++ [name]⟩ = true
      · simp only [asked, if_true, Bool.false_eq_true, if_false]
        refine .map _ ((visits _).mono fun s t h led since is_tree => h ?_)
        exact visited_of_leadsDown is_tree normal leads there since asked led
      · simp only [asked, Bool.false_eq_true, if_false]
        exact .pure (fun s _ _ _ => refl s) _
  · rintro s down s' t ⟨rfl, led⟩ h since is_tree
    exact h led since is_tree

include refl trans grows tree visits in
private theorem walkFrom_visits {depth : Nat}
    (normal : ∀ name ∈ names, Path.isNormal name = true) :
    Keeps (walkFrom refuse wanted visit depth trail (root.down names) names)
      fun s t => s.IsTree → R s t := by
  induction depth generalizing trail names with
  | zero => exact .throw (fun s _ => refl s) _
  | succ depth ih =>
    refine .bind_via
      (S := fun s found s' => s' = s ∧ s.Leads (root.down names) found.1 ∧
        ∀ name entry, (name, entry) ∈ found.2 ↔ s.get? (found.1 ++ [name]) = some entry)
      (T := fun found s t => s.Leads (root.down names) found.1 →
        (∀ name entry, (name, entry) ∈ found.2 ↔ s.get? (found.1 ++ [name]) = some entry) →
          s.IsTree → R s t) ?_ ?_ (fun (location, entries) => ?_) ?_
    · intro s found s' h
      obtain ⟨rfl, leads, -, listed⟩ := enter_ok (Effect.adaptExcept_eq_ok.mp h)
      exact ⟨rfl, leads, listed⟩
    · intro s e s' h _
      exact Same.elim refl _ _ ((Keeps.adaptExcept refuse enter_keeps).error s e s' h)
    · have inside (s : FileSystem) (leads : s.Leads (root.down names) location)
          (listed : ∀ name entry, (name, entry) ∈ entries ↔
            s.get? (location ++ [name]) = some entry) (is_tree : s.IsTree) :
          Keeps (entries.mapM (walkEntry refuse wanted visit depth
            ((root.down names, location) :: trail) (root.down names) names))
            fun t u => s.Grows t → t.IsTree → R t u := by
        refine .mapM (fun t _ _ => refl t) ?_ entries ?_
        · intro t u v first second since tree_t
          have related := first since tree_t
          exact trans t u v related (second (Changes.trans since (grows t u related))
            (tree t u related tree_t))
        · rintro ⟨name, entry⟩ member
          have there := (listed name entry).mp member
          have all_normal : ∀ other ∈ names ++ [name], Path.isNormal other = true := by
            simpa [or_imp, forall_and, is_tree.normal location name entry there] using normal
          exact walkEntry_visits refl visits (fun names => ih) all_normal leads there
      constructor
      · intro s assets t h leads listed is_tree
        exact (Keeps.map _ (inside s leads listed is_tree)).ok s assets t h Changes.refl is_tree
      · intro s e t h leads listed is_tree
        exact (Keeps.map _ (inside s leads listed is_tree)).error s e t h Changes.refl is_tree
    · rintro s found s' t ⟨rfl, leads, listed⟩ h
      exact h leads listed

include refl trans grows tree visits in
/-- A walk keeps what its visits keep, when that is growth of a tree. -/
theorem walk_visits :
    Keeps (walk refuse wanted visit root) fun s t => s.IsTree → R s t :=
  walkFrom_visits refl trans grows tree visits (List.forall_mem_nil _)

end Keeps

end UiScaffold.Walk
