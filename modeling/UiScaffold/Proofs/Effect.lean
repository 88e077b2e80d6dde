import Mathlib.Tactic.Common
import UiScaffold.Workspace

/-!
How steps that may fail compose.

A sequence succeeds when all of its steps do, and fails with the error of the first that does not;
the state after a failure is the one that the failing step left.
-/

set_option autoImplicit false
set_option relaxedAutoImplicit false

namespace UiScaffold.Effect

variable {ε ε' σ α β : Type}

theorem bind_eq_ok {x : EStateM ε σ α} {f : α → EStateM ε σ β} {s t : σ} {b : β} :
    (x >>= f) s = .ok b t ↔ ∃ a u, x s = .ok a u ∧ f a u = .ok b t := by
  change EStateM.bind x f s = _ ↔ _
  unfold EStateM.bind
  cases x s <;> simp [and_assoc]

theorem bind_eq_error {x : EStateM ε σ α} {f : α → EStateM ε σ β} {s t : σ} {e : ε} :
    (x >>= f) s = .error e t ↔
      x s = .error e t ∨ ∃ a u, x s = .ok a u ∧ f a u = .error e t := by
  change EStateM.bind x f s = _ ↔ _
  unfold EStateM.bind
  cases x s <;> simp [and_assoc]

theorem adaptExcept_eq_ok {x : EStateM ε σ α} {f : ε → ε'} {s t : σ} {a : α} :
    x.adaptExcept f s = .ok a t ↔ x s = .ok a t := by
  unfold EStateM.adaptExcept
  cases x s <;> simp

theorem adaptExcept_eq_error {x : EStateM ε σ α} {f : ε → ε'} {s t : σ} {e' : ε'} :
    x.adaptExcept f s = .error e' t ↔ ∃ e, x s = .error e t ∧ f e = e' := by
  unfold EStateM.adaptExcept
  cases x s with
  | ok a u => simp
  | error e u => simpa [and_assoc] using and_comm

theorem onFiles_eq_ok {x : EStateM ε FileSystem α} {w w' : Workspace} {a : α} :
    Work.onFiles x w = .ok a w' ↔ x w.files = .ok a w'.files ∧ w'.journal = w.journal := by
  obtain ⟨files', journal'⟩ := w'
  unfold Work.onFiles
  cases x w.files <;> simp [eq_comm, and_assoc]

theorem onFiles_eq_error {x : EStateM ε FileSystem α} {w w' : Workspace} {e : ε} :
    Work.onFiles x w = .error e w' ↔ x w.files = .error e w'.files ∧ w'.journal = w.journal := by
  obtain ⟨files', journal'⟩ := w'
  unfold Work.onFiles
  cases x w.files <;> simp [eq_comm, and_assoc]

theorem query_eq_ok {ask : FileSystem → Except ε α} {w w' : Workspace} {a : α} :
    Work.query ask w = .ok a w' ↔ ask w.files = .ok a ∧ w' = w := by
  unfold Work.query
  cases ask w.files <;> simp [eq_comm]

theorem query_eq_error {ask : FileSystem → Except ε α} {w w' : Workspace} {e : ε} :
    Work.query ask w = .error e w' ↔ ask w.files = .error e ∧ w' = w := by
  unfold Work.query
  cases ask w.files <;> simp [eq_comm]

theorem report_eq_ok {event : Event} {w w' : Workspace}
    (h : (Work.report event : Work ε Unit) w = .ok () w') :
    w'.files = w.files := by
  cases h
  rfl

theorem forM_onFiles {f : α → EStateM ε FileSystem Unit} {event : α → Event} {items : List α}
    {w w' : Workspace}
    (h : items.forM (fun a => (do Work.onFiles (f a); Work.report (event a) : Work ε Unit)) w =
      .ok () w') :
    items.forM f w.files = .ok () w'.files := by
  induction items generalizing w with
  | nil =>
    cases h
    rfl
  | cons a rest ih =>
    obtain ⟨⟨⟩, w₁, taken, h⟩ := bind_eq_ok.mp h
    obtain ⟨⟨⟩, w₂, done, reported⟩ := bind_eq_ok.mp taken
    obtain ⟨done, -⟩ := onFiles_eq_ok.mp done
    exact bind_eq_ok.mpr ⟨(), w₁.files, report_eq_ok reported ▸ done, ih h⟩

/-- Whether a step ends well, in a state that passes a test. -/
def endsWell (result : EStateM.Result ε σ α) (test : σ → Bool) : Bool :=
  match result with
  | .ok _ s => test s
  | .error .. => false

theorem endsWell_iff {result : EStateM.Result ε σ α} {test : σ → Bool} :
    endsWell result test = true ↔ ∃ a s, result = .ok a s ∧ test s = true := by
  cases result <;> simp [endsWell, and_assoc]

/-- Whether a step fails, with an error and in a state that pass a test. -/
def endsBadly (result : EStateM.Result ε σ α) (test : ε → σ → Bool) : Bool :=
  match result with
  | .ok .. => false
  | .error e s => test e s

theorem endsBadly_iff {result : EStateM.Result ε σ α} {test : ε → σ → Bool} :
    endsBadly result test = true ↔ ∃ e s, result = .error e s ∧ test e s = true := by
  cases result <;> simp [endsBadly, and_assoc]

-- The library states the next two for the class `ForM`, while the programs here call `List.forM`,
-- so that its lemmas do not match.

theorem forM_append {f : α → EStateM ε σ Unit} {items items' : List α} :
    (items ++ items').forM f = items.forM f >>= fun _ => items'.forM f :=
  List.forM_append

theorem forM_map {f : β → EStateM ε σ Unit} {g : α → β} {items : List α} :
    (items.map g).forM f = items.forM fun a => f (g a) :=
  List.forM_map

/-- A list of steps fails at the first one that does; the steps before it went well. -/
theorem forM_eq_error {f : α → EStateM ε σ Unit} {items : List α} {s t : σ} {e : ε} :
    items.forM f s = .error e t ↔ ∃ done item rest u, items = done ++ item :: rest ∧
      done.forM f s = .ok () u ∧ f item u = .error e t := by
  induction items generalizing s with
  | nil =>
    constructor
    · intro h
      cases h
    · rintro ⟨done, item, rest, u, same, -⟩
      cases done <;> cases same
  | cons a more ih =>
    constructor
    · intro h
      rcases bind_eq_error.mp h with failed | ⟨⟨⟩, v, taken, later⟩
      · exact ⟨[], a, more, s, rfl, rfl, failed⟩
      · obtain ⟨done, item, rest, u, rfl, first, failed⟩ := ih.mp later
        exact ⟨a :: done, item, rest, u, rfl, bind_eq_ok.mpr ⟨(), v, taken, first⟩, failed⟩
    · rintro ⟨done, item, rest, u, same, first, failed⟩
      refine bind_eq_error.mpr ?_
      cases done with
      | nil =>
        cases same
        cases first
        exact .inl failed
      | cons b done =>
        cases same
        obtain ⟨⟨⟩, v, taken, first⟩ := bind_eq_ok.mp first
        exact .inr ⟨(), v, taken, ih.mpr ⟨done, item, rest, u, rfl, first, failed⟩⟩

theorem forM_invariant {I : σ → Prop} {f : α → EStateM ε σ Unit} {items : List α} {s t : σ}
    (each : ∀ a ∈ items, ∀ s t, I s → f a s = .ok () t → I t)
    (h : items.forM f s = .ok () t) (start : I s) : I t := by
  induction items generalizing s with
  | nil =>
    cases h
    exact start
  | cons a rest ih =>
    obtain ⟨⟨⟩, u, taken, h⟩ := bind_eq_ok.mp h
    have kept := each a List.mem_cons_self s u start taken
    exact ih (fun b hb => each b (List.mem_cons_of_mem a hb)) h kept

/-- Several lists of results, made one after the other in states that keep an invariant. Each list
tells the steps that were taken for it, and what it shows in view of a later state is still shown in
view of that state when all are made. -/
theorem mapM_flatten {I : σ → Prop} {R : σ → σ → Prop} {P : α → List β → Prop} {Q : β → Prop}
    {f : α → EStateM ε σ (List β)} (last : σ) (visit : β → EStateM ε σ Unit) {items : List α}
    {results : List (List β)} {s t : σ} (refl : ∀ s, R s s)
    (trans : ∀ s t u, R s t → R t u → R s u)
    (step : ∀ a ∈ items, ∀ s bs t, I s → f a s = .ok bs t →
      I t ∧ R s t ∧ bs.forM visit s = .ok () t ∧ (∀ b ∈ bs, Q b) ∧ (R t last → P a bs))
    (h : items.mapM f s = .ok results t) (start : I s) :
    I t ∧ R s t ∧ results.flatten.forM visit s = .ok () t ∧ (∀ b ∈ results.flatten, Q b) ∧
      (R t last → ∀ a ∈ items, ∃ bs ∈ results, P a bs) := by
  induction items generalizing s results with
  | nil =>
    rw [List.mapM_nil] at h
    cases h
    exact ⟨start, refl _, rfl, by simp, by simp⟩
  | cons a rest ih =>
    rw [List.mapM_cons] at h
    obtain ⟨bs, u, first, h⟩ := bind_eq_ok.mp h
    obtain ⟨more, v, others, h⟩ := bind_eq_ok.mp h
    cases h
    obtain ⟨kept, related, taken, good, shows⟩ := step a List.mem_cons_self s bs u start first
    obtain ⟨kept', related', taken', good', lists⟩ :=
      ih (fun b hb => step b (List.mem_cons_of_mem a hb)) others kept
    refine ⟨kept', trans s u t related related', ?_, ?_, fun later => ?_⟩
    · rw [List.flatten_cons, forM_append]
      exact bind_eq_ok.mpr ⟨(), u, taken, taken'⟩
    · rw [List.flatten_cons]
      exact List.forall_mem_append.mpr ⟨good, good'⟩
    · refine List.forall_mem_cons.mpr ⟨⟨bs, List.mem_cons_self, ?_⟩, fun b hb => ?_⟩
      · exact shows (trans u t last related' later)
      · obtain ⟨cs, hc, shown⟩ := lists later b hb
        exact ⟨cs, List.mem_cons_of_mem bs hc, shown⟩

def answer : EStateM.Result ε σ α → Except ε α
  | .ok a _ => .ok a
  | .error e _ => .error e

/-- A step that changes nothing and gives what is known. -/
def reply (known : Except ε α) : EStateM ε σ α := fun s =>
  match known with
  | .ok a => .ok a s
  | .error e => .error e s

def final : EStateM.Result ε σ α → σ
  | .ok _ s => s
  | .error _ s => s

theorem answer_eq_ok {result : EStateM.Result ε σ α} {a : α} :
    answer result = .ok a ↔ ∃ s, result = .ok a s := by
  cases result <;> simp [answer]

theorem bind_of_reply {x : EStateM ε' σ α} {f : ε' → ε} {g : α → EStateM ε σ β} {s : σ}
    {known : Except ε' α} :
    x s = reply known s → (x.adaptExcept f >>= g) s =
      match known with
      | .ok a => g a s
      | .error e => .error (f e) s := by
  intro h
  change EStateM.bind (x.adaptExcept f) g s = _
  unfold EStateM.bind EStateM.adaptExcept
  rw [h]
  cases known <;> rfl

/-- Two steps that end alike: both well or with the same error, in states of which the second is a
view of the first. -/
inductive Alike {τ : Type} (view : σ → τ) : EStateM.Result ε σ α → EStateM.Result ε τ β → Prop
  | ok {a : α} {b : β} {s : σ} : Alike view (.ok a s) (.ok b (view s))
  | error {e : ε} {s : σ} : Alike view (.error e s) (.error e (view s))

namespace Alike

variable {τ α' β' : Type} {view : σ → τ} {x : EStateM ε σ α} {y : EStateM ε τ β} {s : σ}

theorem refl {result : EStateM.Result ε σ α} : Alike id result result := by
  cases result with
  | ok => exact .ok
  | error => exact .error

theorem bind {f : α → EStateM ε σ α'} {g : β → EStateM ε τ β'}
    (first : Alike view (x s) (y (view s)))
    (second : ∀ a s' b, x s = .ok a s' → y (view s) = .ok b (view s') →
      Alike view (f a s') (g b (view s'))) :
    Alike view ((x >>= f) s) ((y >>= g) (view s)) := by
  change Alike view (EStateM.bind x f s) (EStateM.bind y g (view s))
  unfold EStateM.bind
  generalize hx : x s = result at first second
  generalize hy : y (view s) = result' at first second
  cases first with
  | ok => exact second _ _ _ rfl rfl
  | error => exact .error

theorem map {f : α → α'} {result : EStateM.Result ε τ β} (h : Alike view (x s) result) :
    Alike view ((x >>= fun a => Pure.pure (f a)) s) result := by
  change Alike view (EStateM.bind x (fun a => Pure.pure (f a)) s) result
  unfold EStateM.bind
  generalize x s = first at h
  cases h with
  | ok => exact .ok
  | error => exact .error

theorem ending {x : EStateM ε σ Unit} {a : α} {b : β} :
    Alike id ((x >>= fun _ => Pure.pure a) s) ((x >>= fun _ => Pure.pure b) s) := by
  change Alike id (EStateM.bind x _ s) (EStateM.bind x _ s)
  unfold EStateM.bind
  cases x s with
  | ok => exact .ok
  | error => exact .error

theorem forM {f : α → EStateM ε σ Unit} {g : α → EStateM ε τ Unit} {items : List α}
    (each : ∀ a ∈ items, ∀ s, Alike view (f a s) (g a (view s))) :
    Alike view (items.forM f s) (items.forM g (view s)) := by
  induction items generalizing s with
  | nil => exact .ok
  | cons a rest ih =>
    refine bind (each a List.mem_cons_self s) fun _ s' _ _ _ => ?_
    exact ih fun b hb => each b (List.mem_cons_of_mem a hb)

/-- Results made one after the other, and the steps that make them. -/
theorem mapM_flatMap {γ : Type} {I : σ → Prop} {f : α → EStateM ε σ β} {g : α → List γ}
    {visit : γ → EStateM ε σ Unit} {items : List α}
    (each : ∀ a ∈ items, ∀ s, I s → Alike id (f a s) ((g a).forM visit s) ∧
      ∀ t, (g a).forM visit s = .ok () t → I t) (start : I s) :
    Alike id (items.mapM f s) ((items.flatMap g).forM visit s) := by
  induction items generalizing s with
  | nil => exact .ok
  | cons a rest ih =>
    rw [List.mapM_cons, List.flatMap_cons, forM_append]
    obtain ⟨first, kept⟩ := each a List.mem_cons_self s start
    refine bind (y := (g a).forM visit) first fun b t _ _ taken => map ?_
    exact ih (fun b hb => each b (List.mem_cons_of_mem a hb)) (kept t taken)

section Work

variable {w : Workspace}

theorem onFiles {x : EStateM ε FileSystem α} {y : EStateM ε FileSystem β}
    (h : Alike id (x w.files) (y w.files)) :
    Alike Workspace.files (Work.onFiles x w) (y w.files) := by
  unfold Work.onFiles
  generalize x w.files = first at h
  generalize y w.files = second at h
  cases h with
  | ok => exact .ok
  | error => exact .error

theorem report {event : Event} {f : Unit → Work ε α} {result : EStateM.Result ε FileSystem β}
    (h : Alike Workspace.files (f () { w with journal := w.journal ++ [event] }) result) :
    Alike Workspace.files ((Work.report event >>= f) w) result := h

theorem reported {x : Work ε α} {event : Event} {result : EStateM.Result ε FileSystem β}
    (h : Alike Workspace.files (x w) result) :
    Alike Workspace.files ((x >>= fun _ => Work.report event) w) result := by
  change Alike _ (EStateM.bind x (fun _ => Work.report event) w) result
  unfold EStateM.bind
  generalize x w = first at h
  cases h with
  | ok => exact .ok
  | error => exact .error

end Work

end Alike

/-- A property of work that sequences have when their steps have it. -/
structure Composes (Q : {α : Type} → Work ε α → Prop) : Prop where
  pure : ∀ {α : Type} (a : α), Q (Pure.pure a)
  bind : ∀ {α β : Type} {x : Work ε α} {f : α → Work ε β}, Q x → (∀ a, Q (f a)) → Q (x >>= f)
  report : ∀ event, Q (Work.report event)

theorem Composes.forM {Q : {α : Type} → Work ε α → Prop} (composes : Composes Q)
    {f : α → Work ε PUnit} (items : List α) (hf : ∀ a ∈ items, Q (f a)) : Q (items.forM f) := by
  induction items with
  | nil => exact composes.pure _
  | cons a rest ih =>
    have more := ih fun b hb => hf b (List.mem_cons_of_mem a hb)
    exact composes.bind (hf a List.mem_cons_self) fun _ => more

theorem onFiles_bind {x : EStateM ε FileSystem α} {f : α → EStateM ε FileSystem β} :
    Work.onFiles (x >>= f) = Work.onFiles x >>= fun a => Work.onFiles (f a) := by
  funext w
  simp only [Work.onFiles, bind, EStateM.bind]
  cases x w.files <;> rfl

def Raises (x : EStateM ε σ α) (P : ε → Prop) : Prop := ∀ s e t, x s = .error e t → P e

namespace Raises

variable {P : ε → Prop}

theorem pure (a : α) : Raises (Pure.pure a : EStateM ε σ α) P := by
  intro s e t h
  cases h

theorem throw {e : ε} (h : P e) : Raises (MonadExcept.throw e : EStateM ε σ α) P := by
  intro s e' t he
  cases he
  exact h

theorem bind {x : EStateM ε σ α} {f : α → EStateM ε σ β} (hx : Raises x P)
    (hf : ∀ a, Raises (f a) P) : Raises (x >>= f) P := by
  intro s e t h
  rcases bind_eq_error.mp h with h | ⟨a, u, -, h⟩
  · exact hx s e t h
  · exact hf a u e t h

theorem adaptExcept {x : EStateM ε' σ α} {f : ε' → ε} (h : ∀ e, P (f e)) :
    Raises (x.adaptExcept f) P := by
  intro s e t he
  obtain ⟨e', -, rfl⟩ := adaptExcept_eq_error.mp he
  exact h e'

theorem mapM {f : α → EStateM ε σ β} (items : List α) (h : ∀ a ∈ items, Raises (f a) P) :
    Raises (items.mapM f) P := by
  induction items with
  | nil => exact pure []
  | cons a rest ih =>
    rw [List.mapM_cons]
    refine bind (h a List.mem_cons_self) fun b => bind (ih ?_) fun bs => pure _
    intro c hc
    exact h c (List.mem_cons_of_mem a hc)

theorem forM {f : α → EStateM ε σ PUnit} (items : List α) (h : ∀ a, Raises (f a) P) :
    Raises (items.forM f) P := by
  induction items with
  | nil => exact pure _
  | cons a rest ih =>
    exact bind (h a) fun _ => ih

theorem onFiles {x : EStateM ε FileSystem α} (h : Raises x P) : Raises (Work.onFiles x) P := by
  intro w e w' he
  unfold Work.onFiles at he
  cases hx : x w.files with
  | ok a files => simp [hx] at he
  | error e' files =>
    simp only [hx, EStateM.Result.error.injEq] at he
    exact he.1 ▸ h _ _ _ hx

theorem report (event : Event) : Raises (Work.report event : Work ε Unit) P := by
  intro w e w' h
  cases h

end Raises

/-- A state that stays. -/
def Same (s t : σ) : Prop := t = s

namespace Same

theorem refl (s : σ) : Same s s := rfl

theorem trans (s t u : σ) (h : Same s t) (h' : Same t u) : Same s u := Eq.trans h' h

theorem elim {R : σ → σ → Prop} (refl : ∀ s, R s s) (s t : σ) (same : Same s t) : R s t := by
  cases same
  exact refl s

end Same

/-- How the state after a step, good or bad, relates to the state before it. -/
structure Keeps (x : EStateM ε σ α) (R : σ → σ → Prop) : Prop where
  ok : ∀ s a t, x s = .ok a t → R s t
  error : ∀ s e t, x s = .error e t → R s t

namespace Keeps

theorem mono {R R' : σ → σ → Prop} {x : EStateM ε σ α} (hx : Keeps x R)
    (weaker : ∀ s t, R s t → R' s t) : Keeps x R' :=
  ⟨fun s a t h => weaker s t (hx.ok s a t h), fun s e t h => weaker s t (hx.error s e t h)⟩

variable {R : σ → σ → Prop} (refl : ∀ s, R s s) (trans : ∀ s t u, R s t → R t u → R s u)

include refl in
theorem pure (a : α) : Keeps (Pure.pure a : EStateM ε σ α) R := by
  constructor
  · intro s b t h
    cases h
    exact refl s
  · intro s e t h
    cases h

include refl in
theorem throw (e : ε) : Keeps (MonadExcept.throw e : EStateM ε σ α) R := by
  constructor
  · intro s a t h
    cases h
  · intro s e' t h
    cases h
    exact refl s

/-- A step and what follows it, each with a relation of its own. -/
theorem bind_via {S : σ → α → σ → Prop} {T : α → σ → σ → Prop} {x : EStateM ε σ α}
    {f : α → EStateM ε σ β} (ok : ∀ s a t, x s = .ok a t → S s a t)
    (error : ∀ s e t, x s = .error e t → R s t) (hf : ∀ a, Keeps (f a) (T a))
    (both : ∀ s a t u, S s a t → T a t u → R s u) : Keeps (x >>= f) R := by
  constructor
  · intro s b t h
    obtain ⟨a, u, first, second⟩ := bind_eq_ok.mp h
    exact both s a u t (ok s a u first) ((hf a).ok u b t second)
  · intro s e t h
    rcases bind_eq_error.mp h with first | ⟨a, u, first, second⟩
    · exact error s e t first
    · exact both s a u t (ok s a u first) ((hf a).error u e t second)

include trans in
theorem bind {x : EStateM ε σ α} {f : α → EStateM ε σ β} (hx : Keeps x R)
    (hf : ∀ a, Keeps (f a) R) : Keeps (x >>= f) R :=
  bind_via hx.ok hx.error hf fun s _ t u => trans s t u

include trans in
/-- What follows a step may rely on what the step gives in a state that is ready, where the relation
says nothing of others. -/
theorem bind_of {I : σ → Prop} {P : α → Prop} {x : EStateM ε σ α} {f : α → EStateM ε σ β}
    (unready : ∀ s t, ¬ I s → R s t) (hx : Keeps x R)
    (gives : ∀ s a t, I s → x s = .ok a t → P a) (hf : ∀ a, P a → Keeps (f a) R) :
    Keeps (x >>= f) R := by
  refine bind_via (S := fun s a t => R s t ∧ (I s → P a)) (T := fun a s t => P a → R s t)
    (fun s a t h => ⟨hx.ok s a t h, fun ready => gives s a t ready h⟩) hx.error
    (fun a => ⟨fun s b t h known => (hf a known).ok s b t h,
      fun s e t h known => (hf a known).error s e t h⟩) ?_
  rintro s a t u ⟨first, known⟩ second
  by_cases ready : I s
  · exact trans s t u first (second (known ready))
  · exact unready s u ready

theorem adaptExcept {x : EStateM ε' σ α} (f : ε' → ε) (hx : Keeps x R) :
    Keeps (x.adaptExcept f) R := by
  constructor
  · intro s a t h
    exact hx.ok s a t (adaptExcept_eq_ok.mp h)
  · intro s e t h
    obtain ⟨e', h, -⟩ := adaptExcept_eq_error.mp h
    exact hx.error s e' t h

theorem map {x : EStateM ε σ α} (f : α → β) (hx : Keeps x R) :
    Keeps (x >>= fun a => Pure.pure (f a)) R := by
  refine bind_via (S := fun s _ t => R s t) (T := fun _ => Same) hx.ok hx.error
    (fun a => pure Same.refl _) ?_
  rintro s a t u related ⟨⟩
  exact related

include refl trans in
theorem mapM {f : α → EStateM ε σ β} (items : List α) (hf : ∀ a ∈ items, Keeps (f a) R) :
    Keeps (items.mapM f) R := by
  induction items with
  | nil => exact pure refl []
  | cons a rest ih =>
    rw [List.mapM_cons]
    have more := ih fun b hb => hf b (List.mem_cons_of_mem a hb)
    exact bind trans (hf a List.mem_cons_self) fun b => bind trans more fun bs => pure refl _

include refl trans in
theorem forM {f : α → EStateM ε σ PUnit} (items : List α) (hf : ∀ a ∈ items, Keeps (f a) R) :
    Keeps (items.forM f) R := by
  induction items with
  | nil => exact pure refl _
  | cons a rest ih =>
    have more := ih fun b hb => hf b (List.mem_cons_of_mem a hb)
    exact bind trans (hf a List.mem_cons_self) fun _ => more

theorem both {R' : σ → σ → Prop} {x : EStateM ε σ α} (hx : Keeps x R) (hx' : Keeps x R') :
    Keeps x fun s t => R s t ∧ R' s t :=
  ⟨fun s a t h => ⟨hx.ok s a t h, hx'.ok s a t h⟩, fun s e t h =>
    ⟨hx.error s e t h, hx'.error s e t h⟩⟩

theorem final {x : EStateM ε σ α} (hx : Keeps x R) (s : σ) : R s (Effect.final (x s)) := by
  cases h : x s with
  | ok a t => exact hx.ok s a t h
  | error e t => exact hx.error s e t h

end Keeps

/-- A relation between files, as one between workspaces. -/
def OnFiles (R : FileSystem → FileSystem → Prop) (w w' : Workspace) : Prop := R w.files w'.files

namespace Keeps

variable {R : FileSystem → FileSystem → Prop}

theorem onFiles {x : EStateM ε FileSystem α} (hx : Keeps x R) :
    Keeps (Work.onFiles x) (OnFiles R) := by
  constructor
  · intro w a w' h
    exact hx.ok _ _ _ (onFiles_eq_ok.mp h).1
  · intro w e w' h
    exact hx.error _ _ _ (onFiles_eq_error.mp h).1

theorem report (refl : ∀ fs, R fs fs) (event : Event) :
    Keeps (Work.report event : Work ε Unit) (OnFiles R) := by
  constructor
  · intro w a w' h
    cases h
    exact refl _
  · intro w e w' h
    cases h

theorem query {ask : FileSystem → Except ε α} : Keeps (Work.query ask) (OnFiles Same) := by
  constructor
  · intro w a w' h
    exact congrArg Workspace.files (query_eq_ok.mp h).2
  · intro w e w' h
    exact congrArg Workspace.files (query_eq_error.mp h).2

/-- Work that follows a step which leaves the files alone, and relies on what the step gives. -/
theorem bind_quiet {P : α → Prop} {x : Work ε α} {f : α → Work ε β} (refl : ∀ fs, R fs fs)
    (quiet : Keeps x (OnFiles Same)) (gives : ∀ w a w', x w = .ok a w' → P a)
    (hf : ∀ a, P a → Keeps (f a) (OnFiles R)) : Keeps (x >>= f) (OnFiles R) := by
  refine bind_via (S := fun w a w' => OnFiles Same w w' ∧ P a)
    (T := fun a w w' => P a → OnFiles R w w')
    (fun w a w' h => ⟨quiet.ok w a w' h, gives w a w' h⟩)
    (fun w e w' h => Same.elim refl _ _ (quiet.error w e w' h))
    (fun a => ⟨fun w b w' h known => (hf a known).ok w b w' h,
      fun w e w' h known => (hf a known).error w e w' h⟩) ?_
  rintro w a w' w'' ⟨same, known⟩ related
  have related : R w'.files w''.files := related known
  rwa [show w'.files = w.files from same] at related

end Keeps

end UiScaffold.Effect
