import UiScaffold.Proofs.Effect
import UiScaffold.Proofs.Except

/-!
Two runs side by side.

Two runs keep together when both end well or both fail with the same error, with what they give and
the states that they leave related. Runs that are made of such steps keep together too.
-/

set_option autoImplicit false
set_option relaxedAutoImplicit false

namespace UiScaffold.Effect

variable {ε ε' σ α β γ δ : Type}

/-- Two results that are both good or both the same error; `V` relates what they give, and `R` the
states that they leave. -/
inductive Together (V : α → β → Prop) (R : σ → σ → Prop) :
    EStateM.Result ε σ α → EStateM.Result ε σ β → Prop
  | ok {a : α} {b : β} {s t : σ} (gives : V a b) (leaves : R s t) :
      Together V R (.ok a s) (.ok b t)
  | error {e : ε} {s t : σ} (leaves : R s t) : Together V R (.error e s) (.error e t)

namespace Together

variable {V : α → β → Prop} {V' : γ → δ → Prop} {R : σ → σ → Prop} {s t : σ}
  {x : EStateM ε σ α} {y : EStateM ε σ β} {f : α → EStateM ε σ γ} {g : β → EStateM ε σ δ}

theorem imp {V' : α → β → Prop} {R' : σ → σ → Prop} {result : EStateM.Result ε σ α}
    {result' : EStateM.Result ε σ β} (h : Together V R result result')
    (gives : ∀ a b, V a b → V' a b) (leaves : ∀ s t, R s t → R' s t) :
    Together V' R' result result' := by
  cases h with
  | ok given left => exact .ok (gives _ _ given) (leaves _ _ left)
  | error left => exact .error (leaves _ _ left)

theorem bind (first : Together V R (x s) (y t))
    (second : ∀ a b s t, V a b → R s t → Together V' R (f a s) (g b t)) :
    Together V' R ((x >>= f) s) ((y >>= g) t) := by
  change Together V' R (EStateM.bind x f s) (EStateM.bind y g t)
  unfold EStateM.bind
  generalize x s = result at first
  generalize y t = result' at first
  cases first with
  | ok gives leaves => exact second _ _ _ _ gives leaves
  | error leaves => exact .error leaves

/-- Steps that both runs take in the same state keep them in one state. -/
theorem after {f g : α → EStateM ε σ γ} {V' : γ → γ → Prop} (refl : ∀ s, R s s)
    (second : ∀ a t, x s = .ok a t → Together V' R (f a t) (g a t)) :
    Together V' R ((x >>= f) s) ((x >>= g) s) := by
  change Together V' R (EStateM.bind x f s) (EStateM.bind x g s)
  unfold EStateM.bind
  cases taken : x s with
  | ok a t => exact second a t taken
  | error e t => exact .error (refl t)

theorem adaptExcept {x : EStateM ε' σ α} {y : EStateM ε' σ β} (f : ε' → ε)
    (h : Together V R (x s) (y t)) :
    Together V R (x.adaptExcept f s) (y.adaptExcept f t) := by
  unfold EStateM.adaptExcept
  generalize x s = result at h
  generalize y t = result' at h
  cases h with
  | ok gives leaves => exact .ok gives leaves
  | error leaves => exact .error leaves

theorem forM {f : α → EStateM ε σ PUnit} {g : β → EStateM ε σ PUnit} {items : List α}
    {items' : List β} {P : α → β → Prop} (paired : List.Forall₂ P items items')
    (each : ∀ a b s t, P a b → R s t → Together Eq R (f a s) (g b t)) (start : R s t) :
    Together Eq R (items.forM f s) (items'.forM g t) := by
  induction paired generalizing s t with
  | nil => exact .ok rfl start
  | cons pair _ ih =>
    refine bind (each _ _ s t pair start) fun _ _ s t _ related => ?_
    exact ih related

end Together

structure SameNews (R : FileSystem → FileSystem → Prop) (w w' : Workspace) : Prop where
  files : R w.files w'.files
  journal : w.journal = w'.journal

theorem SameNews.imp {R R' : FileSystem → FileSystem → Prop} {w w' : Workspace}
    (h : SameNews R w w') (weaker : ∀ fs fs', R fs fs' → R' fs fs') : SameNews R' w w' :=
  ⟨weaker _ _ h.files, h.journal⟩

namespace Together

variable {V : α → β → Prop} {R : FileSystem → FileSystem → Prop} {w w' : Workspace}

theorem onFiles {x : EStateM ε FileSystem α} {y : EStateM ε FileSystem β}
    (start : SameNews R w w') (h : Together V R (x w.files) (y w'.files)) :
    Together V (SameNews R) (Work.onFiles x w) (Work.onFiles y w') := by
  unfold Work.onFiles
  generalize x w.files = result at h
  generalize y w'.files = result' at h
  cases h with
  | ok gives leaves => exact .ok gives ⟨leaves, start.journal⟩
  | error leaves => exact .error ⟨leaves, start.journal⟩

theorem acting {x : EStateM ε FileSystem α} {y : EStateM ε FileSystem β}
    (h : Together V R (x w.files) (y w'.files)) :
    Together V (OnFiles R) (Work.onFiles x w) (Work.onFiles y w') := by
  unfold Work.onFiles
  generalize x w.files = result at h
  generalize y w'.files = result' at h
  cases h with
  | ok gives leaves => exact .ok gives leaves
  | error leaves => exact .error leaves

theorem report (event : Event) (start : SameNews R w w') :
    Together Eq (SameNews R) ((Work.report event : Work ε Unit) w)
      ((Work.report event : Work ε Unit) w') := by
  have journal : w.journal ++ [event] = w'.journal ++ [event] := by rw [start.journal]
  exact .ok rfl ⟨start.files, journal⟩

/-- Queries of the same files, and what follows them. -/
theorem query {V' : γ → δ → Prop} {R : Workspace → Workspace → Prop}
    {ask : FileSystem → Except ε α} {ask' : FileSystem → Except ε β} {f : α → Work ε γ}
    {g : β → Work ε δ} (answers : Matches V (ask w.files) (ask' w.files)) (start : R w w)
    (second : ∀ a b, ask w.files = .ok a → V a b → Together V' R (f a w) (g b w)) :
    Together V' R ((Work.query ask >>= f) w) ((Work.query ask' >>= g) w) := by
  change Together V' R (EStateM.bind _ f w) (EStateM.bind _ g w)
  unfold EStateM.bind Work.query
  generalize asked : ask w.files = known at answers
  generalize ask' w.files = known' at answers
  cases answers with
  | error e => exact .error start
  | ok related => exact second _ _ asked related

end Together

end UiScaffold.Effect
