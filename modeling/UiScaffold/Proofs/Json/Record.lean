import UiScaffold.Json.Record
import UiScaffold.Proofs.Json.Members
import UiScaffold.Proofs.Json.Sketch

/-!
Records that are read back, and how deep a record can be that was read.

A decoder reads back what is written for a value when it finds the value in the sketch of the
document, as long as the document does not open more containers than are left. The other way round,
a decoder keeps to its levels when the document that is written for what it finds does not open more
containers than were left.
-/

set_option autoImplicit false
set_option relaxedAutoImplicit false

namespace UiScaffold.Json

open Record

namespace Members

variable {members : Members} {key other : String} {document : Json}

private theorem nesting_le_of_get? (h : members.get? key = some document) {levels : Nat}
    (room : nestingMembers members ≤ levels) : document.nesting ≤ levels := by
  obtain ⟨front, back, rfl, -⟩ := List.lookup_eq_some_iff.mp h
  exact nestingMembers_le_iff.mp room (key, document) (by simp)

theorem get?_ifPresent {α : Type} {value : Option α} {write : α → Json} :
    get? (ifPresent key value write) other = if other = key then value.map write else none := by
  cases value with
  | none => simp [ifPresent]
  | some a => simp [ifPresent, get?_cons]

theorem get?_unlessEmpty {α : Type} {items : List α} {write : α → Json} :
    get? (unlessEmpty key items write) other =
      if other = key ∧ items ≠ [] then some (.list (items.map write)) else none := by
  cases items with
  | nil => simp [unlessEmpty]
  | cons a rest => simp [unlessEmpty, get?_cons]

end Members

namespace Record

variable {α : Type}

/-! ### Reading back -/

/-- A decoder finds a value in the sketch of a document. -/
def ReadsBack (read : Decoder α) (document : Json) (a : α) : Prop :=
  ∀ levels, document.nesting ≤ levels → read levels (Sketch.ofJson document) = some a

theorem readsBack_text (content : String) : ReadsBack text? (.text content) content :=
  fun _ _ => rfl

theorem readsBack_bool (flag : Bool) : ReadsBack bool? (.bool flag) flag := fun _ _ => rfl

theorem readsBack_values (items : List Json) : ReadsBack values? (.list items) items := by
  intro levels room
  rw [values?, Sketch.toJson?_ofJson _ room]
  rfl

theorem readsBack_listOf {read : Decoder α} {write : α → Json} {items : List α}
    (h : ∀ item ∈ items, ReadsBack read (write item) item) :
    ReadsBack (listOf? read) (.list (items.map write)) items := by
  intro levels room
  obtain ⟨below, rfl⟩ := Nat.exists_eq_add_of_le' (Nat.le_trans (Nat.le_add_left 1 _) room)
  have inside := nestingItems_le_iff.mp (Nat.le_of_succ_le_succ room)
  change (Sketch.ofItems (items.map write)).mapM (read below) = some items
  rw [Sketch.ofItems_eq_map, List.map_map]
  clear room
  induction items with
  | nil => rfl
  | cons item rest ih =>
    obtain ⟨first, others⟩ := List.forall_mem_cons.mp h
    obtain ⟨item_inside, rest_inside⟩ := List.forall_mem_cons.mp inside
    rw [List.map_cons, List.mapM_cons, ih others rest_inside]
    rw [Function.comp_apply, first below item_inside]
    rfl

theorem readsBack_texts (items : List String) :
    ReadsBack texts? (.list (items.map .text)) items :=
  readsBack_listOf fun item _ => readsBack_text item

def sketches (members : Members) : Fields := members.map fun m => (m.1, Sketch.ofJson m.2)

theorem keys_ifPresent (key : String) (value : Option α) (write : α → Json) :
    ((ifPresent key value write).map (·.1)).Sublist [key] := by
  cases value with
  | none => exact List.nil_sublist _
  | some a => exact List.Sublist.refl _

theorem keys_unlessEmpty (key : String) (items : List α) (write : α → Json) :
    ((unlessEmpty key items write).map (·.1)).Sublist [key] := by
  cases items with
  | nil => exact List.nil_sublist _
  | cons a rest => exact List.Sublist.refl _

theorem fields?_ofJson {keys : List String} {members : Members} (distinct : keys.Nodup)
    (ordered : (members.map (·.1)).Sublist keys) :
    fields? keys (Sketch.ofJson (.object members)) = some (sketches members) := by
  have known (member : String × Json) (there : member ∈ members) : member.1 ∈ keys :=
    ordered.subset (List.mem_map_of_mem there)
  have unique : (members.map (·.1)).Nodup := ordered.nodup distinct
  have keyed : (Sketch.ofMembers members).mapM keyed? = some (sketches members) := by
    rw [Sketch.ofMembers_eq_map, sketches]
    clear known unique ordered
    induction members with
    | nil => rfl
    | cons member rest ih =>
      rw [List.map_cons, List.mapM_cons, ih]
      rfl
  have kept : ((sketches members).filter fun member => keys.contains member.1) =
      sketches members := by
    refine List.filter_eq_self.mpr fun member there => ?_
    obtain ⟨m, inside, rfl⟩ := List.mem_map.mp there
    exact List.contains_iff_mem.mpr (known m inside)
  have once : ((sketches members).map (·.1)).Nodup := by
    rw [sketches, List.map_map]
    exact unique
  change ((Sketch.ofMembers members).mapM keyed? >>= _) = _
  rw [keyed]
  change (if _ then _ else _) = _
  rw [kept, if_pos once]

section

variable {members : Members} {key : String}

private theorem lookup_sketches :
    (sketches members).lookup key = (members.get? key).map Sketch.ofJson := by
  induction members with
  | nil => rfl
  | cons member rest ih =>
    obtain ⟨other, document⟩ := member
    rw [sketches, List.map_cons, List.lookup_cons, Members.get?_cons]
    by_cases same : key = other
    · simp [same]
    · rw [if_neg same, ← ih, beq_eq_false_iff_ne.mpr same]
      rfl

theorem required?_sketches {read : Decoder α} {document : Json} {a : α} {levels : Nat}
    (found : members.get? key = some document) (back : ReadsBack read document a)
    (room : nestingMembers members ≤ levels) :
    required? (sketches members) key (read levels) = some a := by
  rw [required?, lookup_sketches, found]
  exact back levels (Members.nesting_le_of_get? found room)

theorem withDefault?_sketches {read : Decoder (List α)} {write : α → Json} {items : List α}
    {levels : Nat}
    (found : members.get? key = if items ≠ [] then some (.list (items.map write)) else none)
    (back : ReadsBack read (.list (items.map write)) items)
    (room : nestingMembers members ≤ levels) :
    withDefault? (sketches members) key (read levels) [] = some items := by
  rw [withDefault?, lookup_sketches]
  by_cases empty : items = []
  · rw [found, if_neg (not_not_intro empty), empty]
    rfl
  · rw [if_pos empty] at found
    rw [found]
    exact back levels (Members.nesting_le_of_get? found room)

private theorem eq_null_of_ofJson {document : Json}
    (h : Sketch.ofJson document = .literal (some .null)) : document = .null := by
  cases document with
  | text _ | list _ | object _ => cases h
  | null | bool _ | number _ =>
    cases h
    try rfl

theorem optional?_sketches {read : Decoder α} {write : α → Json} {value : Option α} {levels : Nat}
    (found : members.get? key = value.map write) (visible : ∀ a ∈ value, write a ≠ .null)
    (back : ∀ a ∈ value, ReadsBack read (write a) a) (room : nestingMembers members ≤ levels) :
    optional? (sketches members) key (read levels) = some value := by
  rw [optional?, lookup_sketches, found]
  cases value with
  | none => rfl
  | some a =>
    have read_back := back a rfl levels (Members.nesting_le_of_get? found room)
    split
    · next absent => cases absent
    · next null => exact absurd (eq_null_of_ofJson (Option.some.inj null)) (visible a rfl)
    · next same =>
      cases same
      exact congrArg (Option.map some) read_back

end

/-! ### Keeping to the levels -/

/-- What a decoder finds opens no more containers than were left, when it is written. -/
def Fits (levels : Nat) (read : Decoder α) (write : α → Json) : Prop :=
  ∀ sketch a, sketch.Sound → read levels sketch = some a → (write a).nesting ≤ levels

theorem fits_text (levels : Nat) (read : Decoder String) : Fits levels read .text :=
  fun _ _ _ _ => Nat.zero_le _

theorem fits_values (levels : Nat) : Fits levels values? .list := by
  intro sketch items sound found
  obtain ⟨value, made, list⟩ := Option.bind_eq_some_iff.mp found
  rw [asList?_eq_some.mp list] at made
  exact sound.nesting_le made

private theorem exists_of_mem_mapM {β γ : Type} {f : β → Option γ} {items : List β}
    {results : List γ} (made : items.mapM f = some results) {result : γ}
    (member : result ∈ results) : ∃ item ∈ items, f item = some result := by
  induction items generalizing results with
  | nil =>
    cases made
    cases member
  | cons item rest ih =>
    rw [List.mapM_cons] at made
    obtain ⟨first, read, made⟩ := Option.bind_eq_some_iff.mp made
    obtain ⟨others, rest_read, made⟩ := Option.bind_eq_some_iff.mp made
    cases made
    rcases List.mem_cons.mp member with rfl | later
    · exact ⟨item, List.mem_cons_self, read⟩
    · obtain ⟨other, there, same⟩ := ih rest_read later
      exact ⟨other, List.mem_cons_of_mem item there, same⟩

theorem exists_of_mem_listOf? {levels : Nat} {read : Decoder α} {sketch : Sketch} {items : List α}
    (found : listOf? read levels sketch = some items) {item : α} (member : item ∈ items) :
    ∃ below part, read below part = some item := by
  match levels, sketch with
  | below + 1, .list parts =>
    obtain ⟨part, -, read_part⟩ := exists_of_mem_mapM found member
    exact ⟨below, part, read_part⟩

theorem fits_listOf {levels : Nat} {read : Decoder α} {write : α → Json}
    (h : ∀ below < levels, Fits below read write) :
    Fits levels (listOf? read) fun items => .list (items.map write) := by
  intro sketch items sound found
  match levels, sketch with
  | below + 1, .list parts =>
    cases sound with
    | list sound =>
      refine Nat.succ_le_succ (nestingItems_le_iff.mpr fun document member => ?_)
      obtain ⟨item, there, rfl⟩ := List.mem_map.mp member
      obtain ⟨part, origin, read_part⟩ := exists_of_mem_mapM found there
      exact h below (Nat.lt_succ_self below) part item (sound part origin) read_part

theorem fits_texts (levels : Nat) : Fits levels texts? fun items => .list (items.map .text) :=
  fits_listOf fun below _ => fits_text below text?

def SoundFields (fields : Fields) : Prop := ∀ field ∈ fields, field.2.Sound

theorem soundFields_of_fields? {keys : List String} {sketch : Sketch} {fields : Fields}
    (sound : sketch.Sound) (found : fields? keys sketch = some fields) : SoundFields fields := by
  unfold fields? at found
  split at found
  · next members =>
    cases sound with
    | object sound =>
      obtain ⟨all, keyed, found⟩ := Option.bind_eq_some_iff.mp found
      dsimp only at found
      split at found
      · cases found
        intro field member
        obtain ⟨part, origin, same⟩ := exists_of_mem_mapM keyed (List.mem_filter.mp member).1
        obtain ⟨key, -, rfl⟩ := Option.map_eq_some_iff.mp same
        exact sound part origin
      · cases found
  · next items =>
    cases sound with
    | list sound =>
      split at found
      · cases found
        exact fun field member => sound field.2 (List.of_mem_zip member).2
      · cases found
  · cases found

section

variable {fields : Fields} {key : String} {levels : Nat} {read : Decoder α} {write : α → Json}

private theorem sound_of_lookup (sound : SoundFields fields) {sketch : Sketch}
    (looked : fields.lookup key = some sketch) : sketch.Sound := by
  obtain ⟨front, back, rfl, -⟩ := List.lookup_eq_some_iff.mp looked
  exact sound (key, sketch) (by simp)

theorem nesting_of_required? (sound : SoundFields fields) (fits : Fits levels read write) {a : α}
    (found : required? fields key (read levels) = some a) : (write a).nesting ≤ levels := by
  obtain ⟨sketch, looked, made⟩ := Option.bind_eq_some_iff.mp found
  exact fits sketch a (sound_of_lookup sound looked) made

theorem nesting_of_withDefault? (sound : SoundFields fields) {read : Decoder (List α)}
    (fits : Fits levels read fun items => .list (items.map write)) {items : List α}
    (found : withDefault? fields key (read levels) [] = some items) (name : String) :
    nestingMembers (unlessEmpty name items write) ≤ levels := by
  unfold withDefault? at found
  split at found
  · next sketch looked =>
    have inside := fits sketch items (sound_of_lookup sound looked) found
    unfold unlessEmpty
    split
    · exact Nat.zero_le levels
    · exact Nat.max_le.mpr ⟨inside, Nat.zero_le levels⟩
  · cases found
    exact Nat.zero_le levels

theorem nesting_of_optional? (sound : SoundFields fields) (fits : Fits levels read write)
    {value : Option α} (found : optional? fields key (read levels) = some value) (name : String) :
    nestingMembers (ifPresent name value write) ≤ levels := by
  unfold optional? at found
  split at found
  · cases found
    exact Nat.zero_le levels
  · cases found
    exact Nat.zero_le levels
  · next sketch _ looked =>
    obtain ⟨a, made, rfl⟩ := Option.map_eq_some_iff.mp found
    exact Nat.max_le.mpr ⟨fits sketch a (sound_of_lookup sound looked) made,
      Nat.zero_le levels⟩

end

end Record

end UiScaffold.Json
