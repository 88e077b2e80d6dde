import UiScaffold.Descriptor.Reader
import UiScaffold.Proofs.Except
import UiScaffold.Proofs.Json.Members

/-!
Traversals of lists in a descriptor.

A traversal that may fail succeeds with the list of results exactly when every item succeeds with
its own. The traversal of names looks for repetitions, and that of accounts for groups, which are
recognized by a single member.
-/

set_option autoImplicit false
set_option relaxedAutoImplicit false

namespace UiScaffold

variable {α β ε : Type}

theorem forall₂_of_zipIdx {R : Nat → α → β → Prop} {items : List α} {results : List β} {start : Nat}
    (h : List.Forall₂ (fun a b => R a.2 a.1 b) (items.zipIdx start) results) :
    List.Forall₂ (fun a b => ∃ index, R index a b) items results := by
  induction items generalizing results start with
  | nil =>
    cases h
    exact .nil
  | cons a rest ih =>
    rw [List.zipIdx_cons] at h
    cases h with
    | cons first more => exact .cons ⟨start, first⟩ (ih more)

theorem forall₂_zipIdx {R : α → β → Prop} {items : List α} {others : List β}
    (h : List.Forall₂ R items others) (start : Nat) :
    List.Forall₂ (fun a b => R a.1 b.1 ∧ a.2 = b.2) (items.zipIdx start) (others.zipIdx start) := by
  induction h generalizing start with
  | nil => exact .nil
  | cons first _ ih =>
    rw [List.zipIdx_cons, List.zipIdx_cons]
    exact .cons ⟨first, rfl⟩ (ih (start + 1))

/-- Reading, each at its position, what was written for some items gives the items back. -/
theorem mapM_zipIdx_map {f : β × Nat → Except ε α} {items : List α} {write : α → β} (start : Nat)
    (h : ∀ index, ∀ a ∈ items, f (write a, index) = .ok a) :
    ((items.map write).zipIdx start).mapM f = .ok items := by
  induction items generalizing start with
  | nil => rfl
  | cons a rest ih =>
    have tail : ((rest.map write).zipIdx (start + 1)).mapM f = .ok rest :=
      ih (start + 1) fun index b hb => h index b (List.mem_cons_of_mem a hb)
    rw [List.map_cons, List.zipIdx_cons, List.mapM_cons]
    exact except_bind_eq_ok.mpr
      ⟨a, h start a List.mem_cons_self, except_bind_eq_ok.mpr ⟨rest, tail, rfl⟩⟩

theorem mapM_map {f : β → Except ε α} {items : List α} {write : α → β}
    (h : ∀ a ∈ items, f (write a) = .ok a) : (items.map write).mapM f = .ok items := by
  rw [mapM_eq_ok_iff, List.forall₂_map_left_iff, List.forall₂_same]
  exact h

namespace Instruction

private theorem firstRepeat_eq_none {names seen : List String} {index : Nat} :
    firstRepeat seen index names = none ↔ names.Nodup ∧ ∀ name ∈ names, name ∉ seen := by
  induction names generalizing seen index with
  | nil => simp [firstRepeat]
  | cons name rest ih =>
    rw [firstRepeat, List.nodup_cons, List.forall_mem_cons]
    by_cases known : name ∈ seen
    · simp [known]
    · rw [if_neg known, ih]
      constructor
      · rintro ⟨distinct, fresh⟩
        exact ⟨⟨fun again => fresh name again List.mem_cons_self, distinct⟩, known,
          fun other h old => fresh other h (List.mem_cons_of_mem name old)⟩
      · rintro ⟨⟨apart, distinct⟩, -, fresh⟩
        refine ⟨distinct, fun other h => ?_⟩
        rw [List.mem_cons, not_or]
        exact ⟨fun same => apart (same ▸ h), fresh other h⟩

theorem checkNames_eq_ok {instructions : List Instruction} :
    checkNames instructions = .ok () ↔ (instructions.map (·.name)).Nodup := by
  have distinct_iff : firstRepeat [] 0 (instructions.map (·.name)) = none ↔
      (instructions.map (·.name)).Nodup := by
    simp [firstRepeat_eq_none]
  rw [← distinct_iff, checkNames]
  cases firstRepeat [] 0 (instructions.map (·.name)) <;> simp

end Instruction

namespace AccountSlot

theorem groupIn_eq (members : Json.Members) :
    groupIn members = (members.list? "accounts").map flattenAll := by
  induction members with
  | nil => simp [groupIn, Json.Members.list?, Json.Members.get?]
  | cons member rest ih =>
    obtain ⟨key, value⟩ := member
    by_cases hk : key = "accounts"
    · subst hk
      cases value <;> simp [groupIn, Json.Members.list?, Json.Members.get?, Json.asList?]
    · have skip : Json.Members.get? ((key, value) :: rest) "accounts" =
          Json.Members.get? rest "accounts" := by
        rw [Json.Members.get?_cons, if_neg (Ne.symm hk)]
      cases value <;> simp [groupIn, hk, ih, Json.Members.list?, skip]

end AccountSlot

end UiScaffold
