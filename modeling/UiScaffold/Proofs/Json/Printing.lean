import Mathlib.Data.List.TakeWhile
import UiScaffold.Json.Sketch
import UiScaffold.Proofs.Json.Literal

/-!
Written values that are read back.

A value is a list of tokens, and its indented text spells them. The reader that takes these tokens
where a value is due makes of them what the assembly makes of the value, as long as the value does
not open more containers than are left.
-/

set_option autoImplicit false
set_option relaxedAutoImplicit false

namespace UiScaffold.Json

mutual

def pieces : Json → List Token
  | .text value => [.quoted (.ok value)]
  | .list items => .openList :: itemPieces items
  | .object members => .openObject :: memberPieces members
  | value => [.literal (.ok value)]

def itemPieces : List Json → List Token
  | [] => [.closeList]
  | [item] => pieces item ++ [.closeList]
  | item :: rest => pieces item ++ .comma :: itemPieces rest

def memberPieces : List (String × Json) → List Token
  | [] => [.closeObject]
  | [(key, value)] => .quoted (.ok key) :: .colon :: (pieces value ++ [.closeObject])
  | (key, value) :: rest =>
    .quoted (.ok key) :: .colon :: (pieces value ++ .comma :: memberPieces rest)

end

mutual

/-- No number in the value is a double. -/
def Integral : Json → Prop
  | .number (.real _) => False
  | .list items => IntegralItems items
  | .object members => IntegralMembers members
  | _ => True

def IntegralItems : List Json → Prop
  | [] => True
  | item :: rest => Integral item ∧ IntegralItems rest

def IntegralMembers : List (String × Json) → Prop
  | [] => True
  | (_, value) :: rest => Integral value ∧ IntegralMembers rest

end

mutual

/-- How many containers stand inside one another in the value. -/
def nesting : Json → Nat
  | .list items => nestingItems items + 1
  | .object members => nestingMembers members + 1
  | _ => 0

def nestingItems : List Json → Nat
  | [] => 0
  | item :: rest => max (nesting item) (nestingItems rest)

def nestingMembers : List (String × Json) → Nat
  | [] => 0
  | (_, value) :: rest => max (nesting value) (nestingMembers rest)

end

theorem nestingItems_le_iff {items : List Json} {levels : Nat} :
    nestingItems items ≤ levels ↔ ∀ item ∈ items, item.nesting ≤ levels := by
  induction items with
  | nil => simp [nestingItems]
  | cons item rest ih => rw [nestingItems, Nat.max_le, ih, List.forall_mem_cons]

theorem nestingMembers_le_iff {members : Members} {levels : Nat} :
    nestingMembers members ≤ levels ↔ ∀ member ∈ members, member.2.nesting ≤ levels := by
  induction members with
  | nil => simp [nestingMembers]
  | cons member rest ih => rw [nestingMembers, Nat.max_le, ih, List.forall_mem_cons]

theorem nestingMembers_append_le_iff {members others : Members} {levels : Nat} :
    nestingMembers (members ++ others) ≤ levels ↔
      nestingMembers members ≤ levels ∧ nestingMembers others ≤ levels := by
  simp only [nestingMembers_le_iff, List.forall_mem_append]

theorem integralItems_iff {items : List Json} :
    IntegralItems items ↔ ∀ item ∈ items, item.Integral := by
  induction items with
  | nil => simp [IntegralItems]
  | cons item rest ih => rw [IntegralItems, ih, List.forall_mem_cons]

theorem integralMembers_iff {members : Members} :
    IntegralMembers members ↔ ∀ member ∈ members, member.2.Integral := by
  induction members with
  | nil => simp [IntegralMembers]
  | cons member rest ih => rw [IntegralMembers, ih, List.forall_mem_cons]

/-! ### Spelling -/

/-- A text starts with some tokens, with blanks in front of each, and goes on with the rest. -/
inductive Spells : List Char → List Token → List Char → Prop where
  | nil {input : List Char} : Spells input [] input
  | cons {input middle rest : List Char} {token : Token} {tokens : List Token}
      (first : StartsWith input token middle) (others : Spells middle tokens rest) :
      Spells input (token :: tokens) rest

namespace Spells

variable {input middle rest : List Char} {tokens others : List Token} {token : Token}

private theorem append (h : Spells input tokens middle) (h' : Spells middle others rest) :
    Spells input (tokens ++ others) rest := by
  induction h with
  | nil => exact h'
  | cons first _ ih => exact .cons first (ih h')

private theorem one (h : StartsWith input token rest) : Spells input [token] rest := .cons h .nil

private theorem blanks (h : Spells input tokens rest) (some_token : tokens ≠ []) (front : List Char)
    (blank : ∀ c ∈ front, isSpace c = true) : Spells (front ++ input) tokens rest := by
  cases h with
  | nil => exact absurd rfl some_token
  | cons first others =>
    refine .cons ?_ others
    rwa [StartsWith, List.dropWhile_append_of_pos blank]

private theorem newLine (level : Nat) (h : Spells input tokens rest) (some_token : tokens ≠ []) :
    Spells (Json.newLine level ++ input) tokens rest := by
  refine h.blanks some_token _ fun c member => ?_
  simp only [Json.newLine, List.mem_cons, List.mem_replicate] at member
  rcases member with rfl | ⟨-, rfl⟩ <;> rfl

private theorem member (key : String) (h : Spells input tokens rest) (some_token : tokens ≠ []) :
    Spells (quoteChars key ++ ':' :: ' ' :: input) (.quoted (.ok key) :: .colon :: tokens)
      rest := by
  have blank : Spells (' ' :: input) tokens rest :=
    h.blanks some_token [' '] (List.forall_mem_singleton.mpr rfl)
  have colon : StartsWith (':' :: ' ' :: input) .colon (' ' :: input) := rfl
  exact .cons (.quoted key _) (.cons colon blank)

private theorem tokensUpTo_eq (h : Spells input tokens rest) (fuel : Nat) :
    ∃ placed : List Placed, placed.map (·.token) = tokens ∧
      tokensUpTo (fuel + tokens.length) input = placed ++ tokensUpTo fuel rest := by
  induction h with
  | nil => exact ⟨[], rfl, rfl⟩
  | @cons input _ _ token _ first _ ih =>
    obtain ⟨placed, same, taken⟩ := ih
    refine ⟨⟨token, input.dropWhile isSpace⟩ :: placed, by rw [List.map_cons, same], ?_⟩
    rw [List.length_cons, ← Nat.add_assoc, tokensUpTo, first]
    exact congrArg (List.cons _) taken

end Spells

private theorem endsNumber_cons {c : Char} (rest : List Char)
    (h : c.isDigit = false ∧ c ≠ '.' ∧ isExponentMark c = false) : EndsNumber (c :: rest) := by
  intro d first
  cases first
  exact h

private theorem endsNumber_comma (rest : List Char) : EndsNumber (',' :: rest) :=
  endsNumber_cons rest (by decide)

private theorem endsNumber_newLine (level : Nat) (rest : List Char) :
    EndsNumber (newLine level ++ rest) :=
  endsNumber_cons _ (by decide)

mutual

private theorem spells_pretty (level : Nat) {rest : List Char} (ends : EndsNumber rest) :
    (value : Json) → value.Integral → Spells (prettyChars level value ++ rest) value.pieces rest
  | .null, _ => .one rfl
  | .bool true, _ => .one rfl
  | .bool false, _ => .one rfl
  | .number (.whole _ inRange), _ => .one (.number inRange ends)
  | .text value, _ => .one (.quoted value rest)
  | .list [], _ => .cons rfl (.one rfl)
  | .list (item :: items), h => .cons rfl (spells_prettyItems level (item :: items) h)
  | .object [], _ => .cons rfl (.one rfl)
  | .object (member :: members), h => .cons rfl (spells_prettyMembers level (member :: members) h)

private theorem spells_prettyItems (level : Nat) {rest : List Char} :
    (items : List Json) → IntegralItems items →
      Spells (prettyItems level items ++ rest) (itemPieces items) rest
  | [], _ => by
    have close : Spells (']' :: rest) [.closeList] rest := .one rfl
    simpa [prettyItems, itemPieces] using close.newLine level (by simp)
  | [item], h => by
    have close : Spells (newLine level ++ ']' :: rest) [.closeList] rest :=
      Spells.newLine level (.one rfl) (by simp)
    have first := spells_pretty (level + 1) (endsNumber_newLine level (']' :: rest)) item h.1
    have both := (first.append close).newLine (level + 1) (by simp)
    simpa [prettyItems, itemPieces] using both
  | item :: next :: items, h => by
    have others : Spells (',' :: (prettyItems level (next :: items) ++ rest))
        (.comma :: itemPieces (next :: items)) rest :=
      .cons rfl (spells_prettyItems level (next :: items) h.2)
    have ends := endsNumber_comma (prettyItems level (next :: items) ++ rest)
    have first := spells_pretty (level + 1) ends item h.1
    have all := (first.append others).newLine (level + 1) (by simp)
    simpa [prettyItems, itemPieces] using all

private theorem spells_prettyMembers (level : Nat) {rest : List Char} :
    (members : List (String × Json)) → IntegralMembers members →
      Spells (prettyMembers level members ++ rest) (memberPieces members) rest
  | [], _ => by
    have close : Spells ('}' :: rest) [.closeObject] rest := .one rfl
    simpa [prettyMembers, memberPieces] using close.newLine level (by simp)
  | [(key, value)], h => by
    have close : Spells (newLine level ++ '}' :: rest) [.closeObject] rest :=
      Spells.newLine level (.one rfl) (by simp)
    have inner := spells_pretty (level + 1) (endsNumber_newLine level ('}' :: rest)) value h.1
    have both := (inner.append close).member key (by simp)
    simpa [prettyMembers, memberPieces] using both.newLine (level + 1) (by simp)
  | (key, value) :: next :: members, h => by
    have others : Spells (',' :: (prettyMembers level (next :: members) ++ rest))
        (.comma :: memberPieces (next :: members)) rest :=
      .cons rfl (spells_prettyMembers level (next :: members) h.2)
    have ends := endsNumber_comma (prettyMembers level (next :: members) ++ rest)
    have inner := spells_pretty (level + 1) ends value h.1
    have all := (inner.append others).member key (by simp)
    simpa [prettyMembers, memberPieces] using all.newLine (level + 1) (by simp)

end

/-! ### Taking -/

def IsLiteral : Json → Prop
  | .text _ | .list _ | .object _ => False
  | _ => True

/-- An assembly makes the image of a value out of the images of its parts. -/
structure Assembly.Makes {α κ : Type} (assembly : Assembly α κ) (image : Json → α)
    (keyImage : String → κ) : Prop where
  literal : ∀ value : Json, value.IsLiteral → assembly.literal (.ok value) = .ok (image value)
  text : ∀ text, assembly.text (.ok text) = .ok (image (.text text))
  key : ∀ text, assembly.key (.ok text) = .ok (keyImage text)
  list : ∀ items, assembly.list (items.map image) = image (.list items)
  object : ∀ members,
    assembly.object (members.map fun m => (keyImage m.1, image m.2)) = image (.object members)

/-- A value may stand next. -/
inductive Stage.AwaitsValue {α : Type} : Stage α → Prop where
  | value : AwaitsValue .value
  | itemOrEnd : AwaitsValue .itemOrEnd
  | item : AwaitsValue .item

/-- A key may stand next. -/
inductive Stage.AwaitsKey {α : Type} : Stage α → Prop where
  | keyOrEnd : AwaitsKey .keyOrEnd
  | key : AwaitsKey .key

/-- The reader goes over from one state to another when it takes some tokens. -/
inductive Leads {α κ : Type} (assembly : Assembly α κ) (limit : Nat) :
    Reading α κ → List Token → Reading α κ → Prop where
  | nil {reading : Reading α κ} : Leads assembly limit reading [] reading
  | cons {before middle after : Reading α κ} {token : Token} {tokens : List Token}
      (first : ∀ start, before.take assembly limit ⟨token, start⟩ = .ok middle)
      (others : Leads assembly limit middle tokens after) :
      Leads assembly limit before (token :: tokens) after

section

variable {α κ : Type} {assembly : Assembly α κ} {limit : Nat} {image : Json → α}
  {keyImage : String → κ} {stage : Stage α} {stack : List (Frame α κ)}

namespace Leads

variable {before middle after : Reading α κ} {tokens others : List Token} {token : Token}

private theorem append (h : Leads assembly limit before tokens middle)
    (h' : Leads assembly limit middle others after) :
    Leads assembly limit before (tokens ++ others) after := by
  induction h with
  | nil => exact h'
  | cons first _ ih => exact .cons first (ih h')

private theorem one (h : ∀ start, before.take assembly limit ⟨token, start⟩ = .ok after) :
    Leads assembly limit before [token] after := .cons h .nil

private theorem foldlM_eq (h : Leads assembly limit before tokens after) {placed : List Placed}
    (same : placed.map (·.token) = tokens) :
    placed.foldlM (Reading.take assembly limit) before = .ok after := by
  induction h generalizing placed with
  | nil =>
    rw [List.map_eq_nil_iff.mp same]
    rfl
  | cons first _ ih =>
    obtain ⟨⟨_, start⟩, rest, rfl, rfl, remaining⟩ := List.map_eq_cons_iff.mp same
    rw [List.foldlM_cons, first]
    exact ih remaining

end Leads

namespace Reading

private theorem take_literal {value : Except Fault Json} {start : List Char}
    (h : stage.AwaitsValue) : take assembly limit ⟨stage, stack⟩ ⟨.literal value, start⟩ =
      (assembly.literal value).map (supply stack) := by
  cases h <;> rfl

private theorem take_quoted {content : Except Fault String} {start : List Char}
    (h : stage.AwaitsValue) : take assembly limit ⟨stage, stack⟩ ⟨.quoted content, start⟩ =
      (assembly.text content).map (supply stack) := by
  cases h <;> rfl

private theorem take_openList {start : List Char} (h : stage.AwaitsValue)
    (room : stack.length < limit) : take assembly limit ⟨stage, stack⟩ ⟨.openList, start⟩ =
      .ok ⟨.itemOrEnd, .list [] :: stack⟩ := by
  cases h <;> exact if_pos room

private theorem take_openObject {start : List Char} (h : stage.AwaitsValue)
    (room : stack.length < limit) :
    take assembly limit ⟨stage, stack⟩ ⟨.openObject, start⟩ =
      .ok ⟨.keyOrEnd, .object [] :: stack⟩ := by
  cases h <;> exact if_pos room

private theorem take_key {members : List (κ × α)} {content : Except Fault String}
    {start : List Char} (h : stage.AwaitsKey) :
    take assembly limit ⟨stage, .object members :: stack⟩ ⟨.quoted content, start⟩ =
      (assembly.key content).map fun key => ⟨.colon, .member members key :: stack⟩ := by
  cases h <;> rfl

end Reading

open Reading

private theorem leads_literal (makes : assembly.Makes image keyImage) {value : Json}
    (literal : value.IsLiteral) (h : stage.AwaitsValue) :
    Leads assembly limit ⟨stage, stack⟩ [.literal (.ok value)] (supply stack (image value)) := by
  refine .one fun start => ?_
  rw [take_literal h, makes.literal value literal]
  rfl

private theorem leads_key (makes : assembly.Makes image keyImage) {members : List (κ × α)}
    (key : String) (h : stage.AwaitsKey) :
    Leads assembly limit ⟨stage, .object members :: stack⟩ [.quoted (.ok key), .colon]
      ⟨.value, .member members (keyImage key) :: stack⟩ := by
  have first (start : List Char) : take assembly limit ⟨stage, .object members :: stack⟩
      ⟨.quoted (.ok key), start⟩ = .ok ⟨.colon, .member members (keyImage key) :: stack⟩ := by
    rw [take_key h, makes.key key]
    rfl
  exact .cons first (.one fun _ => rfl)

mutual

private theorem leads_pieces (makes : assembly.Makes image keyImage) {stage : Stage α}
    {stack : List (Frame α κ)} (h : stage.AwaitsValue) :
    (value : Json) → stack.length + value.nesting ≤ limit →
      Leads assembly limit ⟨stage, stack⟩ value.pieces (supply stack (image value))
  | .null, _ => leads_literal makes trivial h
  | .bool _, _ => leads_literal makes trivial h
  | .number _, _ => leads_literal makes trivial h
  | .text content, _ => by
    refine .one fun start => ?_
    rw [take_quoted h, makes.text content]
    rfl
  | .list items, room => by
    have inside : stack.length + 1 + nestingItems items ≤ limit := by
      rw [nesting] at room
      omega
    refine .cons (fun start => take_openList h (by omega)) ?_
    have := leads_itemPieces makes [] .itemOrEnd items (fun _ => rfl) inside
    rwa [List.reverse_nil, List.nil_append, makes.list] at this
  | .object members, room => by
    have inside : stack.length + 1 + nestingMembers members ≤ limit := by
      rw [nesting] at room
      omega
    refine .cons (fun start => take_openObject h (by omega)) ?_
    have := leads_memberPieces makes [] .keyOrEnd members (fun _ => rfl) inside
    rwa [List.reverse_nil, List.nil_append, makes.object] at this

private theorem leads_itemPieces (makes : assembly.Makes image keyImage) {stack : List (Frame α κ)}
    (done : List α) {stage : Stage α} (h : stage.AwaitsValue) :
    (items : List Json) → (items = [] → stage = .itemOrEnd) →
      stack.length + 1 + nestingItems items ≤ limit →
      Leads assembly limit ⟨stage, .list done :: stack⟩ (itemPieces items)
        (supply stack (assembly.list (done.reverse ++ items.map image)))
  | [], start, _ => by
    obtain rfl := start rfl
    refine .one fun _ => ?_
    rw [List.map_nil, List.append_nil]
    rfl
  | [item], _, room => by
    have inside : (Frame.list done :: stack).length + item.nesting ≤ limit := by
      simpa [nestingItems] using room
    refine (leads_pieces makes h item inside).append (.one fun _ => ?_)
    rw [List.map_singleton, ← List.reverse_cons]
    rfl
  | item :: next :: items, _, room => by
    have inside : (Frame.list done :: stack).length + item.nesting ≤ limit := by
      rw [nestingItems] at room
      rw [List.length_cons]
      omega
    have outside : stack.length + 1 + nestingItems (next :: items) ≤ limit := by
      rw [nestingItems] at room
      omega
    refine (leads_pieces makes h item inside).append (.cons (fun _ => rfl) ?_)
    have := leads_itemPieces makes (image item :: done) .item (next :: items) (by simp)
      outside
    rwa [List.reverse_cons, List.append_assoc] at this

private theorem leads_memberPieces (makes : assembly.Makes image keyImage)
    {stack : List (Frame α κ)} (done : List (κ × α)) {stage : Stage α} (h : stage.AwaitsKey) :
    (members : List (String × Json)) → (members = [] → stage = .keyOrEnd) →
      stack.length + 1 + nestingMembers members ≤ limit →
      Leads assembly limit ⟨stage, .object done :: stack⟩ (memberPieces members)
        (supply stack (assembly.object
          (done.reverse ++ members.map fun m => (keyImage m.1, image m.2))))
  | [], start, _ => by
    obtain rfl := start rfl
    refine .one fun _ => ?_
    rw [List.map_nil, List.append_nil]
    rfl
  | [(key, value)], _, room => by
    have inside : (Frame.member done (keyImage key) :: stack).length + value.nesting ≤ limit := by
      simpa [nestingMembers] using room
    have read := leads_pieces makes .value value inside
    refine (leads_key makes key h).append (read.append (.one fun _ => ?_))
    rw [List.map_singleton, ← List.reverse_cons]
    rfl
  | (key, value) :: next :: members, _, room => by
    have inside : (Frame.member done (keyImage key) :: stack).length + value.nesting ≤ limit := by
      rw [nestingMembers] at room
      rw [List.length_cons]
      omega
    have outside : stack.length + 1 + nestingMembers (next :: members) ≤ limit := by
      rw [nestingMembers] at room
      omega
    have read := leads_pieces makes .value value inside
    refine (leads_key makes key h).append (read.append (.cons (fun _ => rfl) ?_))
    have := leads_memberPieces makes ((keyImage key, image value) :: done) .key
      (next :: members) (by simp) outside
    rwa [List.reverse_cons, List.append_assoc] at this

end

end

/-! ### Documents -/

mutual

private theorem length_pieces_le (level : Nat) :
    (value : Json) → value.Integral → value.pieces.length ≤ (prettyChars level value).length
  | .null, _ | .bool true, _ | .bool false, _ | .list [], _ | .object [], _ =>
    Nat.le_of_ble_eq_true rfl
  | .number (.whole value _), _ => by
    have digits : 0 < (Nat.toDigits 10 value.natAbs).length :=
      List.length_pos_iff.mpr Nat.toDigits_ne_nil
    change 1 ≤ (integerChars value).length
    unfold integerChars
    split
    · exact Nat.succ_le_succ (Nat.zero_le _)
    · exact digits
  | .text content, _ => Nat.succ_le_succ (Nat.zero_le _)
  | .list (item :: rest), h => Nat.succ_le_succ (length_itemPieces_le level (item :: rest) h)
  | .object (member :: rest), h =>
    Nat.succ_le_succ (length_memberPieces_le level (member :: rest) h)

private theorem length_itemPieces_le (level : Nat) :
    (items : List Json) → IntegralItems items →
      (itemPieces items).length ≤ (prettyItems level items).length
  | [], _ => Nat.le_add_left 1 _
  | [item], h => by
    have := length_pieces_le (level + 1) item h.1
    simp only [itemPieces, prettyItems, List.length_append, List.length_singleton]
    omega
  | item :: next :: rest, h => by
    have := length_pieces_le (level + 1) item h.1
    have := length_itemPieces_le level (next :: rest) h.2
    simp only [itemPieces, prettyItems, List.length_append, List.length_cons]
    omega

private theorem length_memberPieces_le (level : Nat) :
    (members : List (String × Json)) → IntegralMembers members →
      (memberPieces members).length ≤ (prettyMembers level members).length
  | [], _ => Nat.le_add_left 1 _
  | [(key, value)], h => by
    have := length_pieces_le (level + 1) value h.1
    simp only [memberPieces, prettyMembers, List.length_append, List.length_cons]
    omega
  | (key, value) :: next :: rest, h => by
    have := length_pieces_le (level + 1) value h.1
    have := length_memberPieces_le level (next :: rest) h.2
    simp only [memberPieces, prettyMembers, List.length_append, List.length_cons]
    omega

end

mutual

private theorem nesting_le_pieces : (value : Json) → value.nesting ≤ value.pieces.length
  | .null | .bool _ | .number _ | .text _ => Nat.zero_le _
  | .list items => Nat.succ_le_succ (nestingItems_le_pieces items)
  | .object members => Nat.succ_le_succ (nestingMembers_le_pieces members)

private theorem nestingItems_le_pieces :
    (items : List Json) → nestingItems items ≤ (itemPieces items).length
  | [] => Nat.zero_le _
  | [item] => by
    have := nesting_le_pieces item
    simp only [nestingItems, itemPieces, List.length_append]
    omega
  | item :: next :: rest => by
    have := nesting_le_pieces item
    have := nestingItems_le_pieces (next :: rest)
    rw [nestingItems]
    simp only [itemPieces, List.length_append, List.length_cons]
    omega

private theorem nestingMembers_le_pieces :
    (members : List (String × Json)) → nestingMembers members ≤ (memberPieces members).length
  | [] => Nat.zero_le _
  | [(_, value)] => by
    have := nesting_le_pieces value
    simp only [nestingMembers, memberPieces, List.length_append, List.length_cons]
    omega
  | (_, value) :: next :: rest => by
    have := nesting_le_pieces value
    have := nestingMembers_le_pieces (next :: rest)
    rw [nestingMembers]
    simp only [memberPieces, List.length_append, List.length_cons]
    omega

end

theorem nesting_le_length {value : Json} (integral : value.Integral) :
    value.nesting ≤ value.pretty.length := by
  rw [pretty, String.length_ofList]
  exact Nat.le_trans (nesting_le_pieces value) (length_pieces_le 0 value integral)

private theorem endsNumber_blank {tail : List Char} (blank : ∀ c ∈ tail, isSpace c = true) :
    EndsNumber tail := by
  intro c first
  have space := blank c (List.mem_of_mem_head? first)
  simp only [isSpace, Bool.or_eq_true, beq_iff_eq, or_assoc] at space
  rcases space with rfl | rfl | rfl | rfl <;> decide

theorem assemble_pretty_append {α κ : Type} {assembly : Assembly α κ} {limit : Nat}
    {image : Json → α} {keyImage : String → κ} (makes : assembly.Makes image keyImage)
    {value : Json} (integral : value.Integral) (room : value.nesting ≤ limit) {tail : List Char}
    (blank : ∀ c ∈ tail, isSpace c = true) :
    assemble assembly limit (prettyChars 0 value ++ tail) = .ok (image value) := by
  have spelled : Spells (prettyChars 0 value ++ tail) value.pieces tail :=
    spells_pretty 0 (endsNumber_blank blank) value integral
  have led : Leads assembly limit Reading.start value.pieces ⟨.done (image value), []⟩ :=
    leads_pieces makes .value value (by simpa using room)
  -- Every token takes a character, so that one more is left for the end of the text.
  obtain ⟨fuel, enough⟩ := Nat.exists_eq_add_of_le' (length_pieces_le 0 value integral)
  have count : (prettyChars 0 value ++ tail).length + 1 =
      (fuel + tail.length + 1) + value.pieces.length := by
    rw [List.length_append]
    omega
  obtain ⟨placed, same, taken⟩ := spelled.tokensUpTo_eq (fuel + tail.length + 1)
  have ended : tokensUpTo (fuel + tail.length + 1) tail = [⟨.finish, []⟩] := by
    rw [tokensUpTo, List.dropWhile_eq_nil_iff.mpr blank]
    rfl
  rw [assemble, tokens, count, taken, ended, List.foldlM_append, led.foldlM_eq same]
  rfl

private theorem assemble_pretty {α κ : Type} {assembly : Assembly α κ} {limit : Nat}
    {image : Json → α}
    {keyImage : String → κ} (makes : assembly.Makes image keyImage) {value : Json}
    (integral : value.Integral) (room : value.nesting ≤ limit) :
    assemble assembly limit (prettyChars 0 value) = .ok (image value) := by
  have bare : assemble assembly limit (prettyChars 0 value ++ []) = .ok (image value) :=
    assemble_pretty_append makes integral room (by simp)
  rwa [List.append_nil] at bare

/-- The indented text of a value is read as the value, down to its repeated keys. -/
theorem readChars_pretty {value : Json} {limit : Nat} (integral : value.Integral)
    (room : value.nesting ≤ limit) : readChars limit (prettyChars 0 value) = .ok value := by
  have makes : exactly.Makes id id :=
    { literal := fun _ _ => rfl
      text := fun _ => rfl
      key := fun _ => rfl
      list := fun items => congrArg Json.list (List.map_id items)
      object := fun members => congrArg Json.object (List.map_id members) }
  exact assemble_pretty makes integral room

end UiScaffold.Json
