import Mathlib.Data.List.Forall2

/-!
Calculations that may fail.

A calculation in steps succeeds when every step does, and fails with the error of the first that
does not. Two calculations match when both fail with the same error or both succeed with results
that are related; calculations whose steps match do so as well.
-/

set_option autoImplicit false
set_option relaxedAutoImplicit false

namespace UiScaffold

variable {α β γ ε : Type}

theorem except_bind_eq_ok {x : Except ε α} {f : α → Except ε β} {b : β} :
    (x >>= f) = .ok b ↔ ∃ a, x = .ok a ∧ f a = .ok b := by
  cases x with
  | error e => simp [bind, Except.bind]
  | ok a => simp [bind, Except.bind]

theorem except_bind_eq_error {x : Except ε α} {f : α → Except ε β} {e : ε} :
    (x >>= f) = .error e ↔ x = .error e ∨ ∃ a, x = .ok a ∧ f a = .error e := by
  cases x with
  | error e' => simp [bind, Except.bind]
  | ok a => simp [bind, Except.bind]

theorem except_map_bind {x : Except ε α} {f : α → Except ε β} {g : β → γ} :
    (x >>= f).map g = x >>= fun a => (f a).map g := by
  cases x <;> rfl

theorem except_map_eq_ok {x : Except ε α} {f : α → β} {b : β} :
    x.map f = .ok b ↔ ∃ a, x = .ok a ∧ f a = b := by
  cases x <;> simp [Except.map]

theorem except_toOption_eq_some {x : Except ε α} {a : α} : x.toOption = some a ↔ x = .ok a := by
  cases x <;> simp [Except.toOption]

theorem mapM_eq_ok_iff {f : α → Except ε β} {items : List α} {results : List β} :
    items.mapM f = .ok results ↔ List.Forall₂ (fun a b => f a = .ok b) items results := by
  induction items generalizing results with
  | nil =>
    rw [List.mapM_nil, List.forall₂_nil_left_iff]
    exact ⟨fun h => (Except.ok.inj h).symm, fun h => congrArg Except.ok h.symm⟩
  | cons a rest ih =>
    rw [List.mapM_cons, except_bind_eq_ok]
    constructor
    · rintro ⟨b, first, h⟩
      obtain ⟨bs, more, h⟩ := except_bind_eq_ok.mp h
      exact Except.ok.inj h ▸ .cons first (ih.mp more)
    · intro h
      obtain _ | ⟨first, more⟩ := h
      exact ⟨_, first, except_bind_eq_ok.mpr ⟨_, ih.mpr more, rfl⟩⟩

theorem exists_of_forall₂ {R : α → β → Prop} {items : List α} {results : List β}
    (h : List.Forall₂ R items results) {b : β} (member : b ∈ results) : ∃ a ∈ items, R a b := by
  induction h with
  | nil => cases member
  | @cons a _ _ _ first _ ih =>
    rcases List.mem_cons.mp member with rfl | later
    · exact ⟨a, List.mem_cons_self, first⟩
    · obtain ⟨other, there, same⟩ := ih later
      exact ⟨other, List.mem_cons_of_mem a there, same⟩

theorem exists_of_mem_mapM {f : α → Except ε β} {items : List α} {results : List β}
    (h : items.mapM f = .ok results) {b : β} (member : b ∈ results) : ∃ a ∈ items, f a = .ok b :=
  exists_of_forall₂ (mapM_eq_ok_iff.mp h) member

/-- Two calculations fail with the same error or succeed with related results. -/
inductive Matches {α β ε : Type} (R : α → β → Prop) : Except ε α → Except ε β → Prop
  | error (e : ε) : Matches R (.error e) (.error e)
  | ok {a : α} {b : β} : R a b → Matches R (.ok a) (.ok b)

namespace Matches

variable {α' β' : Type} {R : α → β → Prop} {S : α' → β' → Prop} {x : Except ε α} {y : Except ε β}

theorem bind {f : α → Except ε α'} {g : β → Except ε β'} (h : Matches R x y)
    (step : ∀ a b, R a b → Matches S (f a) (g b)) : Matches S (x >>= f) (y >>= g) := by
  cases h with
  | error e => exact .error e
  | ok related => exact step _ _ related

theorem imp {R' : α → β → Prop} (h : Matches R x y) (step : ∀ a b, R a b → R' a b) :
    Matches R' x y := by
  cases h with
  | error e => exact .error e
  | ok related => exact .ok (step _ _ related)

theorem map {f : α → α'} {g : β → β'} (h : Matches R x y) (step : ∀ a b, R a b → S (f a) (g b)) :
    Matches S (f <$> x) (g <$> y) := by
  cases h with
  | error e => exact .error e
  | ok related => exact .ok (step _ _ related)

theorem mapM {P : α' → β' → Prop} {f : α' → Except ε α} {g : β' → Except ε β} {items : List α'}
    {others : List β'} (h : List.Forall₂ P items others)
    (step : ∀ a b, P a b → Matches R (f a) (g b)) :
    Matches (List.Forall₂ R) (items.mapM f) (others.mapM g) := by
  induction h with
  | nil => exact .ok .nil
  | cons first _ ih =>
    rw [List.mapM_cons, List.mapM_cons]
    exact (step _ _ first).bind fun _ _ related =>
      ih.bind fun _ _ others => .ok (.cons related others)

end Matches

end UiScaffold
