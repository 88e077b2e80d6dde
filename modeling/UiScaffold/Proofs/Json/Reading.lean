import UiScaffold.Proofs.Except
import UiScaffold.Proofs.Json.Printing

/-!
What holds of every document that is read.

A property of parts, which may depend on how many containers are open around them, holds of the
document if literals and texts have it and a container has it when its parts have it one level
further down. So no document is nested deeper than the reader was allowed to go.
-/

set_option autoImplicit false
set_option relaxedAutoImplicit false

namespace UiScaffold.Json

/-! ### Literals -/

private theorem isLiteral_of_readWord {value found : Json} (h : value.IsLiteral)
    {word input : List Char} (made : (readWord value word input).1 = .literal (.ok found)) :
    found.IsLiteral := by
  fun_induction readWord value word input with
  | case1 rest =>
    cases made
    exact h
  | case2 => cases made
  | case3 =>
    rename_i ih
    exact ih made
  | case4 => cases made

private theorem isLiteral_of_numberToken {input : List Char} {found : Json}
    (made : (numberToken input).1 = .literal (.ok found)) : found.IsLiteral := by
  unfold numberToken at made
  split at made
  · cases made
    trivial
  · cases made
  · cases made

private theorem not_literal_of_quotedToken {input : List Char} {found : Except Fault Json} :
    (quotedToken input).1 ≠ .literal found := by
  unfold quotedToken
  split <;> exact nofun

private theorem isLiteral_of_nextToken {input : List Char} {found : Json}
    (made : (nextToken input).1 = .literal (.ok found)) : found.IsLiteral := by
  unfold nextToken at made
  split at made
  case h_8 => exact isLiteral_of_readWord (by trivial) made
  case h_9 => exact isLiteral_of_readWord (by trivial) made
  case h_10 => exact isLiteral_of_readWord (by trivial) made
  case h_11 => exact absurd made not_literal_of_quotedToken
  case h_12 =>
    split at made
    · exact isLiteral_of_numberToken made
    · cases made
  all_goals cases made

private theorem isLiteral_of_mem_tokensUpTo {fuel : Nat} {input : List Char} {placed : Placed}
    (member : placed ∈ tokensUpTo fuel input) {found : Json}
    (made : placed.token = .literal (.ok found)) : found.IsLiteral := by
  induction fuel generalizing input with
  | zero => cases member
  | succ fuel ih =>
    have first : (nextToken (input.dropWhile isSpace)).1 = .literal (.ok found) →
        found.IsLiteral := isLiteral_of_nextToken
    rw [tokensUpTo] at member
    split at member
    · next token only =>
      rw [only] at first
      obtain rfl := List.mem_singleton.mp member
      exact first made
    · next token rest more =>
      rw [more] at first
      rcases List.mem_cons.mp member with rfl | later
      · exact first made
      · exact ih later

/-! ### Runs of the reader -/

/-- A property that an assembly hands on from the parts of a document to the document, where the
number of containers around a part is known. -/
structure Assembly.Grants {α κ : Type} (assembly : Assembly α κ) (limit : Nat)
    (P : Nat → α → Prop) : Prop where
  literal {depth : Nat} {value : Except Fault Json} {a : α} (room : depth ≤ limit)
    (literals : ∀ found, value = .ok found → found.IsLiteral)
    (made : assembly.literal value = .ok a) : P depth a
  text {depth : Nat} {content : Except Fault String} {a : α} (room : depth ≤ limit)
    (made : assembly.text content = .ok a) : P depth a
  list {depth : Nat} {items : List α} (room : depth < limit)
    (h : ∀ item ∈ items, P (depth + 1) item) : P depth (assembly.list items)
  object {depth : Nat} {members : List (κ × α)} (room : depth < limit)
    (h : ∀ member ∈ members, P (depth + 1) member.2) : P depth (assembly.object members)

def Frame.held {α κ : Type} : Frame α κ → List α
  | .list items => items
  | .object members | .member members _ => members.map (·.2)

/-- The open containers are not too many, and what they hold has a property. -/
inductive Holding {α κ : Type} (limit : Nat) (P : Nat → α → Prop) : List (Frame α κ) → Prop where
  | nil : Holding limit P []
  | cons {frame : Frame α κ} {up : List (Frame α κ)} (room : up.length < limit)
    (h : ∀ a ∈ frame.held, P (up.length + 1) a) (others : Holding limit P up) :
    Holding limit P (frame :: up)

/-- What the reader has made so far has a property. -/
structure Reading.Has {α κ : Type} (limit : Nat) (P : Nat → α → Prop) (reading : Reading α κ) :
    Prop where
  stack : Holding limit P reading.stack
  document : ∀ a, reading.stage = .done a → P 0 a

section

variable {α κ : Type} {assembly : Assembly α κ} {limit : Nat} {P : Nat → α → Prop}
  {stack : List (Frame α κ)} {reading after : Reading α κ} {t : Placed}

private theorem Holding.room (h : Holding limit P stack) : stack.length ≤ limit := by
  cases h with
  | nil => exact Nat.zero_le limit
  | cons room _ _ => exact room

namespace Reading.Has

private theorem supply (h : Holding limit P stack) {a : α} (ha : P stack.length a) :
    (supply stack a).Has limit P := by
  cases h with
  | nil =>
    refine ⟨.nil, ?_⟩
    rintro document ⟨⟩
    exact ha
  | @cons frame up room top others =>
    cases frame with
    | list items => exact ⟨.cons room (List.forall_mem_cons.mpr ⟨ha, top⟩) others, nofun⟩
    | object members => exact ⟨.cons room top others, nofun⟩
    | member members key => exact ⟨.cons room (List.forall_mem_cons.mpr ⟨ha, top⟩) others, nofun⟩

private theorem close (grants : assembly.Grants limit P) (h : Holding limit P stack) :
    (close assembly stack).Has limit P := by
  cases h with
  | nil => exact ⟨.nil, nofun⟩
  | @cons frame up room top others =>
    cases frame with
    | list items =>
      exact supply others (grants.list room fun a member => top a (List.mem_reverse.mp member))
    | object members | member members =>
      refine supply others (grants.object room fun m member => ?_)
      exact top m.2 (List.mem_map_of_mem (List.mem_reverse.mp member))

private theorem takeValue (grants : assembly.Grants limit P) (h : Holding limit P stack)
    (literals : ∀ found, t.token = .literal (.ok found) → found.IsLiteral)
    (taken : takeValue assembly limit stack t = .ok after) : after.Has limit P := by
  unfold Reading.takeValue at taken
  split at taken
  · next value is_literal =>
    obtain ⟨a, made, rfl⟩ := except_map_eq_ok.mp taken
    refine supply h (grants.literal h.room (fun found same => literals found ?_) made)
    rw [is_literal, same]
  · obtain ⟨a, made, rfl⟩ := except_map_eq_ok.mp taken
    exact supply h (grants.text h.room made)
  · split at taken
    · next room =>
      cases taken
      exact ⟨.cons room nofun h, nofun⟩
    · cases taken
  · split at taken
    · next room =>
      cases taken
      exact ⟨.cons room nofun h, nofun⟩
    · cases taken
  all_goals cases taken

private theorem takeKey (h : Holding limit P stack) {problem : Problem}
    (taken : takeKey assembly stack problem t = .ok after) : after.Has limit P := by
  unfold Reading.takeKey at taken
  split at taken
  · obtain ⟨key, -, rfl⟩ := except_map_eq_ok.mp taken
    cases h with
    | cons room top others => exact ⟨.cons room top others, nofun⟩
  all_goals cases taken

private theorem takeSeparator (grants : assembly.Grants limit P) (h : Holding limit P stack)
    (taken : takeSeparator assembly stack t = .ok after) : after.Has limit P := by
  unfold Reading.takeSeparator at taken
  split at taken
  all_goals first
    | cases taken; exact ⟨h, nofun⟩
    | cases taken; exact close grants h
    | cases taken

private theorem take (grants : assembly.Grants limit P) (h : reading.Has limit P)
    (literals : ∀ found, t.token = .literal (.ok found) → found.IsLiteral)
    (taken : reading.take assembly limit t = .ok after) : after.Has limit P := by
  unfold Reading.take at taken
  split at taken
  all_goals first
    | exact takeValue grants h.stack literals taken
    | exact takeKey h.stack taken
    | exact takeSeparator grants h.stack taken
    | cases taken; exact close grants h.stack
    | cases taken; exact h
    | cases taken; exact ⟨h.stack, nofun⟩
    | cases taken

private theorem foldlM (grants : assembly.Grants limit P) {placed : List Placed}
    (h : reading.Has limit P)
    (literals : ∀ t ∈ placed, ∀ found, t.token = .literal (.ok found) → found.IsLiteral)
    (taken : placed.foldlM (Reading.take assembly limit) reading = .ok after) :
    after.Has limit P := by
  induction placed generalizing reading with
  | nil =>
    cases taken
    exact h
  | cons t rest ih =>
    obtain ⟨first, others⟩ := List.forall_mem_cons.mp literals
    rw [List.foldlM_cons] at taken
    obtain ⟨middle, step, more⟩ := except_bind_eq_ok.mp taken
    exact ih (take grants h first step) others more

end Reading.Has

theorem Assembly.Grants.of_assemble (grants : assembly.Grants limit P) {input : List Char} {a : α}
    (h : assemble assembly limit input = .ok a) : P 0 a := by
  obtain ⟨reading, folded, finished⟩ := except_bind_eq_ok.mp h
  have start : (Reading.start : Reading α κ).Has limit P := ⟨.nil, nofun⟩
  have has := start.foldlM grants (fun t member found => isLiteral_of_mem_tokensUpTo member) folded
  unfold Reading.finish at finished
  split at finished
  · next complete =>
    cases finished
    exact has.document a complete
  · cases finished

end

theorem nesting_of_isLiteral {value : Json} (h : value.IsLiteral) : value.nesting = 0 := by
  cases value with
  | list _ | object _ => cases h
  | null | bool _ | number _ | text _ => rfl

private theorem exactly_grants (limit : Nat) :
    exactly.Grants limit fun depth value => depth + value.nesting ≤ limit where
  literal room literals made := by
    rw [nesting_of_isLiteral (literals _ made)]
    exact room
  text room made := by
    obtain ⟨content, -, rfl⟩ := except_map_eq_ok.mp made
    exact room
  list room h := by
    have := nestingItems_le_iff.mpr fun item member => Nat.le_sub_of_add_le' (h item member)
    change _ + (nestingItems _ + 1) ≤ limit
    omega
  object room h := by
    have := nestingMembers_le_iff.mpr fun member there => Nat.le_sub_of_add_le' (h member there)
    change _ + (nestingMembers _ + 1) ≤ limit
    omega

theorem nesting_of_readChars {limit : Nat} {input : List Char} {value : Json}
    (h : readChars limit input = .ok value) : value.nesting ≤ limit := by
  have := (exactly_grants limit).of_assemble h
  rwa [Nat.zero_add] at this

end UiScaffold.Json
