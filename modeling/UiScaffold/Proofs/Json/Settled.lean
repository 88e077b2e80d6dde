import Mathlib.Data.List.Nodup
import UiScaffold.Proofs.Json.Members
import UiScaffold.Proofs.Json.Reading

/-!
Values without repeated keys.

Settling a value makes it one, leaves it alone when it is one, and never nests it deeper.
-/

set_option autoImplicit false
set_option relaxedAutoImplicit false

namespace UiScaffold.Json

mutual

/-- No object in the value has a key twice. -/
def Settled : Json → Prop
  | .list items => SettledItems items
  | .object members => (members.map (·.1)).Nodup ∧ SettledMembers members
  | _ => True

def SettledItems : List Json → Prop
  | [] => True
  | item :: rest => Settled item ∧ SettledItems rest

def SettledMembers : List (String × Json) → Prop
  | [] => True
  | (_, value) :: rest => Settled value ∧ SettledMembers rest

end

namespace Members

variable {members : Members} {key : String} {value : Json}

private theorem put_of_not_mem (h : key ∉ members.map (·.1)) :
    members.put key value = members ++ [(key, value)] := by
  induction members with
  | nil => rfl
  | cons member rest ih =>
    obtain ⟨other, old⟩ := member
    rw [List.map_cons, List.mem_cons, not_or] at h
    rw [put, if_neg (Ne.symm h.1), ih h.2, List.cons_append]

private theorem keys_put (members : Members) (key : String) (value : Json) :
    (members.put key value).map (·.1) = members.map (·.1) ∨
    key ∉ members.map (·.1) ∧ (members.put key value).map (·.1) = members.map (·.1) ++ [key] := by
  by_cases h : key ∈ members.map (·.1)
  · left
    induction members with
    | nil => cases h
    | cons member rest ih =>
      obtain ⟨other, old⟩ := member
      rw [put]
      split
      · rfl
      · next different =>
        have later : key ∈ rest.map (·.1) := by
          rcases List.mem_cons.mp h with same | later
          · exact absurd same.symm different
          · exact later
        rw [List.map_cons, ih later, List.map_cons]
  · exact .inr ⟨h, by rw [put_of_not_mem h, List.map_append, List.map_singleton]⟩

private theorem nodup_put (h : (members.map (·.1)).Nodup) :
    ((members.put key value).map (·.1)).Nodup := by
  rcases keys_put members key value with same | ⟨fresh, more⟩
  · rwa [same]
  · rw [more, List.nodup_append]
    refine ⟨h, List.nodup_singleton key, ?_⟩
    rintro other there _ added rfl
    exact fresh (List.mem_singleton.mp added ▸ there)

private theorem settledMembers_put (h : SettledMembers members) (hv : value.Settled) :
    SettledMembers (members.put key value) := by
  induction members with
  | nil => exact ⟨hv, trivial⟩
  | cons member rest ih =>
    obtain ⟨other, old⟩ := member
    rw [put]
    split
    · exact ⟨hv, h.2⟩
    · exact ⟨h.1, ih h.2⟩

private theorem nestingMembers_put (members : Members) (key : String) (value : Json) :
    nestingMembers (members.put key value) ≤ max (nestingMembers members) value.nesting := by
  induction members with
  | nil => simp [put, nestingMembers]
  | cons member rest ih =>
    obtain ⟨other, old⟩ := member
    rw [put]
    split
    · simp only [nestingMembers]
      omega
    · simp only [nestingMembers]
      omega

end Members

open Members

mutual

private theorem settled_settle : (value : Json) → value.settle.Settled
  | .null | .bool _ | .number _ | .text _ => trivial
  | .list items => settledItems_settleItems items
  | .object members => settledMembers_settleMembers [] List.nodup_nil trivial members

theorem settledItems_settleItems : (items : List Json) → SettledItems (settleItems items)
  | [] => trivial
  | item :: rest => ⟨settled_settle item, settledItems_settleItems rest⟩

private theorem settledMembers_settleMembers (done : Members) (nodup : (done.map (·.1)).Nodup)
    (settled : SettledMembers done) : (members : List (String × Json)) →
      ((settleMembers done members).map (·.1)).Nodup ∧ SettledMembers (settleMembers done members)
  | [] => ⟨nodup, settled⟩
  | (_, value) :: rest =>
    settledMembers_settleMembers _ (nodup_put nodup)
      (settledMembers_put settled (settled_settle value)) rest

end

mutual

private theorem nesting_settle_le : (value : Json) → value.settle.nesting ≤ value.nesting
  | .null | .bool _ | .number _ | .text _ => Nat.le_refl 0
  | .list items => Nat.succ_le_succ (nestingItems_settleItems_le items)
  | .object members => by
    have := nestingMembers_settleMembers_le [] members
    rw [nestingMembers, Nat.zero_max] at this
    exact Nat.succ_le_succ this

theorem nestingItems_settleItems_le :
    (items : List Json) → nestingItems (settleItems items) ≤ nestingItems items
  | [] => Nat.le_refl 0
  | item :: rest => by
    have := nesting_settle_le item
    have := nestingItems_settleItems_le rest
    simp only [settleItems, nestingItems]
    omega

private theorem nestingMembers_settleMembers_le (done : Members) :
    (members : List (String × Json)) →
      nestingMembers (settleMembers done members) ≤
        max (nestingMembers done) (nestingMembers members)
  | [] => Nat.le_max_left _ _
  | (key, value) :: rest => by
    have := nestingMembers_settleMembers_le (done.put key value.settle) rest
    have := nestingMembers_put done key value.settle
    have := nesting_settle_le value
    simp only [settleMembers, nestingMembers]
    omega

end

mutual

private theorem settle_eq : (value : Json) → value.Settled → value.settle = value
  | .null, _ | .bool _, _ | .number _, _ | .text _, _ => rfl
  | .list items, h => congrArg Json.list (settleItems_eq items h)
  | .object members, h => congrArg Json.object (settleMembers_eq [] members h.1 h.2)

theorem settleItems_eq : (items : List Json) → SettledItems items → settleItems items = items
  | [], _ => rfl
  | item :: rest, h => by
    rw [settleItems, settle_eq item h.1, settleItems_eq rest h.2]

private theorem settleMembers_eq (done : Members) : (members : List (String × Json)) →
    ((done ++ members).map (·.1)).Nodup → SettledMembers members →
      settleMembers done members = done ++ members
  | [], _, _ => (List.append_nil done).symm
  | (key, value) :: rest, nodup, h => by
    have split : done ++ (key, value) :: rest = (done ++ [(key, value)]) ++ rest := by simp
    have fresh : key ∉ done.map (·.1) := by
      rw [List.map_append, List.map_cons] at nodup
      exact fun there => List.disjoint_of_nodup_append nodup there List.mem_cons_self
    rw [settleMembers, settle_eq value h.1, put_of_not_mem fresh, split]
    exact settleMembers_eq _ rest (split ▸ nodup) h.2

end

/-- A value that repeats no keys and opens no more containers than are allowed. -/
structure Tame (levels : Nat) (value : Json) : Prop where
  nesting : value.nesting ≤ levels
  settled : value.Settled

namespace Tame

variable {levels : Nat}

theorem mono {value : Json} (h : Tame levels value) {more : Nat} (le : levels ≤ more) :
    Tame more value :=
  ⟨Nat.le_trans h.nesting le, h.settled⟩

theorem item {items : List Json} (h : Tame levels (.list items)) {value : Json}
    (member : value ∈ items) : Tame (levels - 1) value := by
  have inside : nestingItems items ≤ levels - 1 := Nat.le_sub_one_of_lt h.nesting
  have settled : SettledItems items := h.settled
  refine ⟨nestingItems_le_iff.mp inside value member, ?_⟩
  clear h inside
  induction items with
  | nil => cases member
  | cons first rest ih =>
    rcases List.mem_cons.mp member with rfl | later
    · exact settled.1
    · exact ih later settled.2

theorem member {members : Members} (h : Tame levels (.object members)) {key : String}
    {value : Json} (found : members.get? key = some value) : Tame (levels - 1) value := by
  have inside : nestingMembers members ≤ levels - 1 := Nat.le_sub_one_of_lt h.nesting
  have settled : SettledMembers members := h.settled.2
  obtain ⟨front, back, rfl, -⟩ := List.lookup_eq_some_iff.mp found
  refine ⟨nestingMembers_le_iff.mp inside (key, value) (by simp), ?_⟩
  clear h inside found
  induction front with
  | nil => exact settled.1
  | cons first rest ih => exact ih settled.2

theorem items {members : Members} (h : Tame levels (.object members)) {key : String}
    {value : Json} (member : value ∈ members.items key) : Tame (levels - 1 - 1) value := by
  rw [Members.items] at member
  cases found : members.list? key with
  | none =>
    rw [found] at member
    cases member
  | some items =>
    rw [found] at member
    exact (h.member (Members.list?_eq_some.mp found)).item member

theorem of_read {text : String} {value : Json} (h : read text = .ok value) :
    Tame nestingLimit value := by
  obtain ⟨verbatim, found, rfl⟩ := except_map_eq_ok.mp h
  refine ⟨Nat.le_trans (nesting_settle_le verbatim) ?_, settled_settle verbatim⟩
  unfold readVerbatim at found
  split at found
  · next chars =>
    cases found
    exact nesting_of_readChars chars
  · cases found

end Tame

end UiScaffold.Json
