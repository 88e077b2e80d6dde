import UiScaffold.Form.Document
import UiScaffold.Proofs.Json.Record
import UiScaffold.Proofs.Json.Settled

/-!
Forms that are read back, and what can be said of a form that was read.

The document of a form, an account or a control is read back as long as it does not open more
containers than are left. A form that was read keeps to the levels that it was read with, and its
seeds repeat no keys.
-/

set_option autoImplicit false
set_option relaxedAutoImplicit false

namespace UiScaffold

open Json Json.Record Json.Members

namespace Widget

private theorem readsBack (widget : Widget) : ReadsBack decode? (.text widget.name) widget := by
  intro levels _
  cases widget <;> cases levels <;> rfl

end Widget

namespace AccountSlot

def members (slot : AccountSlot) : Members :=
  [("name", .text slot.name), ("isSigner", .bool slot.signer),
    ("isWritable", .bool slot.writable), ("optional", .bool slot.optional)] ++
  ifPresent "role" slot.role .text ++ ifPresent "seeds" slot.seeds .list ++
  unlessEmpty "docs" slot.docs .text

private theorem keys_members (slot : AccountSlot) : (slot.members.map (·.1)).Sublist keys := by
  simp only [members, List.map_append]
  exact ((List.Sublist.refl _).append (keys_ifPresent ..)).append (keys_ifPresent ..)
    |>.append (keys_unlessEmpty ..)

section

variable (slot : AccountSlot)

private theorem get?_name : slot.members.get? "name" = some (.text slot.name) := rfl

private theorem get?_signer : slot.members.get? "isSigner" = some (.bool slot.signer) := rfl

private theorem get?_writable : slot.members.get? "isWritable" = some (.bool slot.writable) := rfl

private theorem get?_optional : slot.members.get? "optional" = some (.bool slot.optional) := rfl

private theorem get?_role : slot.members.get? "role" = slot.role.map .text := by
  simp [members, get?_append, get?_cons, get?_ifPresent, get?_unlessEmpty]

private theorem get?_seeds : slot.members.get? "seeds" = slot.seeds.map .list := by
  simp [members, get?_append, get?_cons, get?_ifPresent, get?_unlessEmpty]

private theorem get?_docs : slot.members.get? "docs" =
    if slot.docs ≠ [] then some (.list (slot.docs.map .text)) else none := by
  simp [members, get?_append, get?_cons, get?_ifPresent, get?_unlessEmpty]

end

structure Decoded (levels : Nat) (fields : Fields) (slot : AccountSlot) : Prop where
  name : required? fields "name" (Record.text? levels) = some slot.name
  signer : required? fields "isSigner" (bool? levels) = some slot.signer
  writable : required? fields "isWritable" (bool? levels) = some slot.writable
  optional : required? fields "optional" (bool? levels) = some slot.optional
  role : optional? fields "role" (Record.text? levels) = some slot.role
  seeds : ∃ seeds, optional? fields "seeds" (values? levels) = some seeds ∧
    slot.seeds = seeds.map settleItems
  docs : withDefault? fields "docs" (texts? levels) [] = some slot.docs

private theorem decode?_eq_some {levels : Nat} {sketch : Sketch} {slot : AccountSlot} :
    decode? (levels + 1) sketch = some slot ↔
      ∃ fields, fields? keys sketch = some fields ∧ Decoded levels fields slot := by
  simp only [decode?, Option.bind_eq_bind, Option.bind_eq_some_iff, Option.pure_def,
    Option.some.injEq]
  constructor
  · rintro ⟨fields, record, name, hn, signer, hs, writable, hw, optional, ho, role, hr, seeds, hd,
      docs, hx, rfl⟩
    exact ⟨fields, record, hn, hs, hw, ho, hr, ⟨seeds, hd, rfl⟩, hx⟩
  · rintro ⟨fields, record, hn, hs, hw, ho, hr, ⟨seeds, hd, same⟩, hx⟩
    refine ⟨fields, record, _, hn, _, hs, _, hw, _, ho, _, hr, seeds, hd, _, hx, ?_⟩
    rw [← same]

private theorem readsBack (slot : AccountSlot)
    (settled : ∀ seeds ∈ slot.seeds, SettledItems seeds) : ReadsBack decode? slot.toJson slot := by
  intro levels room
  match levels with
  | levels + 1 =>
    have inside : nestingMembers slot.members ≤ levels := Nat.le_of_succ_le_succ room
    have kept : slot.seeds = slot.seeds.map settleItems := by
      cases seeds : slot.seeds with
      | none => rfl
      | some items => rw [Option.map_some, settleItems_eq items (settled items seeds)]
    refine decode?_eq_some.mpr ⟨_, fields?_ofJson (by decide) (keys_members slot), ?_⟩
    exact
      { name := required?_sketches (get?_name slot) (readsBack_text _) inside
        signer := required?_sketches (get?_signer slot) (readsBack_bool _) inside
        writable := required?_sketches (get?_writable slot) (readsBack_bool _) inside
        optional := required?_sketches (get?_optional slot) (readsBack_bool _) inside
        role := optional?_sketches (get?_role slot) nofun (fun _ _ => readsBack_text _) inside
        seeds :=
          ⟨_, optional?_sketches (get?_seeds slot) nofun (fun _ _ => readsBack_values _) inside,
          kept⟩
        docs := withDefault?_sketches (get?_docs slot) (readsBack_texts _) inside }

private theorem fits (levels : Nat) : Fits levels decode? toJson := by
  intro sketch slot sound found
  match levels with
  | levels + 1 =>
    obtain ⟨fields, record, decoded⟩ := decode?_eq_some.mp found
    have sound := soundFields_of_fields? sound record
    obtain ⟨seeds, read, same⟩ := decoded.seeds
    have role := nesting_of_optional? sound (fits_text levels _) decoded.role "role"
    have docs := nesting_of_withDefault? sound (fits_texts levels) decoded.docs "docs"
    have settled : nestingMembers (ifPresent "seeds" slot.seeds .list) ≤ levels := by
      have unsettled := nesting_of_optional? sound (fits_values levels) read "seeds"
      rw [same]
      cases seeds with
      | none => exact unsettled
      | some items =>
        simp only [ifPresent, Option.map_some, nestingMembers, nesting] at unsettled ⊢
        have := nestingItems_settleItems_le items
        omega
    refine Nat.succ_le_succ ?_
    rw [nestingMembers_append_le_iff, nestingMembers_append_le_iff, nestingMembers_append_le_iff]
    exact ⟨⟨⟨Nat.zero_le levels, role⟩, settled⟩, docs⟩

private theorem settled_of_decode? {levels : Nat} {sketch : Sketch} {slot : AccountSlot}
    (found : decode? levels sketch = some slot) : ∀ seeds ∈ slot.seeds, SettledItems seeds := by
  intro seeds present
  match levels with
  | levels + 1 =>
    obtain ⟨fields, -, decoded⟩ := decode?_eq_some.mp found
    obtain ⟨before, -, same⟩ := decoded.seeds
    rw [same] at present
    obtain ⟨items, -, rfl⟩ := Option.map_eq_some_iff.mp present
    exact settledItems_settleItems items

end AccountSlot

namespace Control

def members (control : Control) : Members :=
  [("name", .text control.name), ("uiType", .text control.widget.name),
    ("required", .bool control.required)] ++
  unlessEmpty "docs" control.docs .text ++ unlessEmpty "children" control.children toJson ++
  unlessEmpty "options" control.choices .text

private theorem toJsonAll_eq_map (controls : List Control) :
    toJsonAll controls = controls.map toJson := by
  induction controls with
  | nil => rfl
  | cons control rest ih => rw [toJsonAll, ih, List.map_cons]

theorem toJson_eq (control : Control) : control.toJson = .object control.members := by
  obtain ⟨name, widget, required, docs, children, choices⟩ := control
  have parts : childMember children = unlessEmpty "children" children toJson := by
    cases children with
    | nil => rfl
    | cons child rest => rw [childMember, toJsonAll_eq_map]; rfl
  rw [toJson, parts]
  rfl

private theorem keys_members (control : Control) : (control.members.map (·.1)).Sublist keys := by
  simp only [members, List.map_append]
  exact ((List.Sublist.refl _).append (keys_unlessEmpty ..)).append (keys_unlessEmpty ..)
    |>.append (keys_unlessEmpty ..)

section

variable (control : Control)

private theorem get?_name : control.members.get? "name" = some (.text control.name) := rfl

private theorem get?_widget :
    control.members.get? "uiType" = some (.text control.widget.name) := rfl

private theorem get?_required :
    control.members.get? "required" = some (.bool control.required) := rfl

private theorem get?_docs : control.members.get? "docs" =
    if control.docs ≠ [] then some (.list (control.docs.map .text)) else none := by
  simp [members, get?_append, get?_cons, get?_unlessEmpty]

private theorem get?_children : control.members.get? "children" =
    if control.children ≠ [] then some (.list (control.children.map toJson)) else none := by
  simp [members, get?_append, get?_cons, get?_unlessEmpty]

private theorem get?_choices : control.members.get? "options" =
    if control.choices ≠ [] then some (.list (control.choices.map .text)) else none := by
  simp [members, get?_append, get?_cons, get?_unlessEmpty]

end

structure Decoded (levels : Nat) (fields : Fields) (control : Control) : Prop where
  name : required? fields "name" (Record.text? levels) = some control.name
  widget : required? fields "uiType" (Widget.decode? levels) = some control.widget
  required : required? fields "required" (bool? levels) = some control.required
  docs : withDefault? fields "docs" (texts? levels) [] = some control.docs
  children : withDefault? fields "children" (listOf? decode? levels) [] = some control.children
  choices : withDefault? fields "options" (texts? levels) [] = some control.choices

private theorem decode?_eq_some {levels : Nat} {sketch : Sketch} {control : Control} :
    decode? (levels + 1) sketch = some control ↔
      ∃ fields, fields? keys sketch = some fields ∧ Decoded levels fields control := by
  have parts : decodeAll? levels = listOf? decode? levels := by
    funext sketch
    cases levels <;> cases sketch <;> rfl
  simp only [decode?, Option.bind_eq_bind, Option.bind_eq_some_iff, Option.pure_def,
    Option.some.injEq, parts]
  constructor
  · rintro ⟨fields, record, name, hn, widget, hw, required, hr, docs, hd, children, hc, choices, ho,
      rfl⟩
    exact ⟨fields, record, hn, hw, hr, hd, hc, ho⟩
  · rintro ⟨fields, record, hn, hw, hr, hd, hc, ho⟩
    exact ⟨fields, record, _, hn, _, hw, _, hr, _, hd, _, hc, _, ho, by cases control; rfl⟩

mutual

private theorem readsBack : (control : Control) → ReadsBack decode? control.toJson control
  | .mk name widget required docs children choices => by
    intro levels room
    have parts : ∀ child ∈ children, ReadsBack decode? child.toJson child := readsBackAll children
    rw [toJson_eq] at room ⊢
    match levels with
    | levels + 1 =>
      have inside := Nat.le_of_succ_le_succ room
      refine decode?_eq_some.mpr ⟨_, fields?_ofJson (by decide) (keys_members _), ?_⟩
      exact
        { name := required?_sketches (get?_name _) (readsBack_text _) inside
          widget := required?_sketches (get?_widget _) (Widget.readsBack _) inside
          required := required?_sketches (get?_required _) (readsBack_bool _) inside
          docs := withDefault?_sketches (get?_docs _) (readsBack_texts _) inside
          children := withDefault?_sketches (get?_children _) (readsBack_listOf parts) inside
          choices := withDefault?_sketches (get?_choices _) (readsBack_texts _) inside }

private theorem readsBackAll : (controls : List Control) →
    ∀ control ∈ controls, ReadsBack decode? control.toJson control
  | [] => nofun
  | control :: rest => List.forall_mem_cons.mpr ⟨readsBack control, readsBackAll rest⟩

end

private theorem fits (levels : Nat) : Fits levels decode? toJson := by
  induction levels using Nat.strongRecOn with
  | ind levels ih =>
    intro sketch control sound found
    match levels with
    | levels + 1 =>
      obtain ⟨fields, record, decoded⟩ := decode?_eq_some.mp found
      have sound := soundFields_of_fields? sound record
      have parts : Fits levels (listOf? decode?) fun parts => .list (parts.map toJson) :=
        fits_listOf fun below less => ih below (Nat.lt_succ_of_lt less)
      have docs := nesting_of_withDefault? sound (fits_texts levels) decoded.docs "docs"
      have children := nesting_of_withDefault? sound parts decoded.children "children"
      have choices := nesting_of_withDefault? sound (fits_texts levels) decoded.choices "options"
      rw [toJson_eq]
      refine Nat.succ_le_succ ?_
      rw [members, nestingMembers_append_le_iff, nestingMembers_append_le_iff,
        nestingMembers_append_le_iff]
      exact ⟨⟨⟨Nat.zero_le levels, docs⟩, children⟩, choices⟩

end Control

namespace Form

def members (form : Form) : Members :=
  [("name", .text form.name)] ++ unlessEmpty "docs" form.docs .text ++
  [("args", .list (form.controls.map Control.toJson)),
    ("accounts", .list (form.accounts.map AccountSlot.toJson))]

theorem toJson_eq (form : Form) : form.toJson = .object form.members := by
  rw [toJson, Control.toJsonAll_eq_map]
  rfl

private theorem keys_members (form : Form) : (form.members.map (·.1)).Sublist keys := by
  simp only [members, List.map_append]
  exact ((List.Sublist.refl _).append (keys_unlessEmpty ..)).append (List.Sublist.refl _)

section

variable (form : Form)

private theorem get?_name : form.members.get? "name" = some (.text form.name) := rfl

private theorem get?_docs : form.members.get? "docs" =
    if form.docs ≠ [] then some (.list (form.docs.map .text)) else none := by
  simp [members, get?_append, get?_cons, get?_unlessEmpty]

private theorem get?_controls :
    form.members.get? "args" = some (.list (form.controls.map Control.toJson)) := by
  simp [members, get?_append, get?_cons, get?_unlessEmpty]

private theorem get?_accounts :
    form.members.get? "accounts" = some (.list (form.accounts.map AccountSlot.toJson)) := by
  simp [members, get?_append, get?_cons, get?_unlessEmpty]

end

structure Decoded (levels : Nat) (fields : Fields) (form : Form) : Prop where
  name : required? fields "name" (Record.text? levels) = some form.name
  docs : withDefault? fields "docs" (texts? levels) [] = some form.docs
  controls : required? fields "args" (listOf? Control.decode? levels) = some form.controls
  accounts : required? fields "accounts" (listOf? AccountSlot.decode? levels) = some form.accounts

private theorem decode?_eq_some {levels : Nat} {sketch : Sketch} {form : Form} :
    decode? (levels + 1) sketch = some form ↔
      ∃ fields, fields? keys sketch = some fields ∧ Decoded levels fields form := by
  simp only [decode?, Option.bind_eq_bind, Option.bind_eq_some_iff, Option.pure_def,
    Option.some.injEq]
  constructor
  · rintro ⟨fields, record, name, hn, docs, hd, controls, hc, accounts, ha, rfl⟩
    exact ⟨fields, record, hn, hd, hc, ha⟩
  · rintro ⟨fields, record, hn, hd, hc, ha⟩
    exact ⟨fields, record, _, hn, _, hd, _, hc, _, ha, rfl⟩

/-- The seeds of the accounts repeat no keys. -/
def Settled (form : Form) : Prop :=
  ∀ slot ∈ form.accounts, ∀ seeds ∈ slot.seeds, SettledItems seeds

theorem readsBack (form : Form) (settled : form.Settled) :
    ReadsBack decode? form.toJson form := by
  intro levels room
  rw [toJson_eq] at room ⊢
  match levels with
  | levels + 1 =>
    have inside : nestingMembers form.members ≤ levels := Nat.le_of_succ_le_succ room
    have controls : ReadsBack (listOf? Control.decode?) (.list (form.controls.map Control.toJson))
        form.controls := readsBack_listOf fun control _ => control.readsBack
    have accounts : ReadsBack (listOf? AccountSlot.decode?)
        (.list (form.accounts.map AccountSlot.toJson)) form.accounts :=
      readsBack_listOf fun slot member => slot.readsBack (settled slot member)
    refine decode?_eq_some.mpr ⟨_, fields?_ofJson (by decide) (keys_members form), ?_⟩
    exact
      { name := required?_sketches (get?_name form) (readsBack_text _) inside
        docs := withDefault?_sketches (get?_docs form) (readsBack_texts _) inside
        controls := required?_sketches (get?_controls form) controls inside
        accounts := required?_sketches (get?_accounts form) accounts inside }

theorem fits (levels : Nat) : Fits levels decode? toJson := by
  intro sketch form sound found
  match levels with
  | levels + 1 =>
    obtain ⟨fields, record, decoded⟩ := decode?_eq_some.mp found
    have sound := soundFields_of_fields? sound record
    have docs := nesting_of_withDefault? sound (fits_texts levels) decoded.docs "docs"
    have controls := nesting_of_required? sound (fits_listOf fun below _ => Control.fits below)
      decoded.controls
    have accounts := nesting_of_required? sound (fits_listOf fun below _ => AccountSlot.fits below)
      decoded.accounts
    rw [toJson_eq]
    refine Nat.succ_le_succ ?_
    rw [members, nestingMembers_append_le_iff, nestingMembers_append_le_iff]
    have lists := Nat.max_le.mpr ⟨controls, Nat.max_le.mpr ⟨accounts, Nat.zero_le levels⟩⟩
    exact ⟨⟨Nat.zero_le levels, docs⟩, lists⟩

theorem settled_of_decode? {levels : Nat} {sketch : Sketch} {form : Form}
    (found : decode? levels sketch = some form) : form.Settled := by
  intro slot member
  match levels with
  | levels + 1 =>
    obtain ⟨fields, -, decoded⟩ := decode?_eq_some.mp found
    obtain ⟨value, -, accounts⟩ := Option.bind_eq_some_iff.mp decoded.accounts
    obtain ⟨below, part, found⟩ := exists_of_mem_listOf? accounts member
    exact AccountSlot.settled_of_decode? found

end Form

end UiScaffold
