import UiScaffold.Proofs.Descriptor.Traversal
import UiScaffold.Proofs.Descriptor.Vocabulary
import UiScaffold.Proofs.Json.Record

/-!
Reading back what was written.

Both vocabularies, with any spelling of the accounts, are read as the program that was written. The
types carry the argument: the outline of a written type is its outermost form, so that reading
follows the type down for as many levels as it has.
-/

set_option autoImplicit false
set_option relaxedAutoImplicit false

namespace UiScaffold

open Json.Record (ifPresent)

variable {v : Vocabulary}

namespace Json.Members

private theorem get?_tag {kind key : String} (h : key ≠ "kind") : get? (v.tag kind) key = none := by
  cases v with
  | anchor => rfl
  | codama => simp [Vocabulary.tag, get?_cons, h]

private theorem get?_tag_append {kind key : String} {rest : Members} (h : key ≠ "kind") :
    get? (v.tag kind ++ rest) key = rest.get? key := by
  rw [get?_append, get?_tag h]
  rfl

end Json.Members

namespace Docs

theorem ofJson_texts {docs : List String} (h : Trimmed docs) : ofJson (.texts docs) = docs := by
  have kept : (docs.map Json.text).filterMap Json.asText? = docs := by
    rw [List.filterMap_map]
    exact List.filterMap_some
  rw [Json.texts, ofJson, kept]
  exact (List.map_congr_left h).trans docs.map_id

private theorem ofMembers_eq {members : Json.Members} {docs : List String}
    (found : members.get? "docs" = some (.texts docs)) (h : Trimmed docs) :
    ofMembers members = docs := by
  simp [ofMembers, found, ofJson_texts h]

end Docs

namespace DataType

private theorem named_integerName {bits : Nat} (signed : Bool) (h : bits ∈ integerWidths) :
    named (integerName bits signed) = .integer bits signed := by
  simp only [integerWidths, List.mem_cons, List.not_mem_nil, or_false] at h
  rcases h with rfl | rfl | rfl | rfl | rfl | rfl <;> cases signed <;> rfl

private theorem named_floatName {bits : Nat} (h : bits ∈ [32, 64]) :
    named (floatName bits) = .float bits := by
  simp only [List.mem_cons, List.not_mem_nil, or_false] at h
  rcases h with rfl | rfl <;> rfl

private theorem encodeItems_eq_map (items : List DataType) :
    encodeItems v items = items.map (encode v) := by
  induction items with
  | nil => rfl
  | cons type rest ih => rw [encodeItems, ih, List.map_cons]

def encodeField (v : Vocabulary) (field : Argument) : Json :=
  Argument.object v "structFieldTypeNode" field.name field.docs field.optional (field.type.encode v)

private theorem encodeFields_eq_map (fields : List Argument) :
    encodeFields v fields = fields.map (encodeField v) := by
  induction fields with
  | nil => rfl
  | cons field rest ih =>
    obtain ⟨name, docs, optional, type⟩ := field
    rw [encodeFields, ih, List.map_cons]
    rfl

private theorem known_of_mem_items {items : List DataType} (h : KnownItems items) {type : DataType}
    (hm : type ∈ items) : type.Known := by
  induction items with
  | nil => cases hm
  | cons other rest ih =>
    rw [KnownItems] at h
    rcases List.mem_cons.mp hm with rfl | hm
    · exact h.1
    · exact ih h.2 hm

private theorem known_of_mem_fields {fields : List Argument} (h : KnownFields fields)
    {field : Argument} (hm : field ∈ fields) : Docs.Trimmed field.docs ∧ field.type.Known := by
  induction fields with
  | nil => cases hm
  | cons other rest ih =>
    obtain ⟨name, docs, optional, type⟩ := other
    rw [KnownFields] at h
    rcases List.mem_cons.mp hm with rfl | hm
    · exact h.1
    · exact ih h.2 hm

private theorem depth_lt_of_mem_items {items : List DataType} {type : DataType}
    (hm : type ∈ items) : type.depth < depthItems items := by
  induction items with
  | nil => cases hm
  | cons other rest ih =>
    rw [depthItems]
    rcases List.mem_cons.mp hm with rfl | hm
    · omega
    · have := ih hm
      omega

private theorem depth_lt_of_mem_fields {fields : List Argument} {field : Argument}
    (hm : field ∈ fields) : field.type.depth < depthFields fields := by
  induction fields with
  | nil => cases hm
  | cons other rest ih =>
    obtain ⟨name, docs, optional, type⟩ := other
    rw [depthFields]
    rcases List.mem_cons.mp hm with rfl | hm
    · exact Nat.lt_of_lt_of_le (Nat.lt_succ_self _) (Nat.le_max_left _ _)
    · have := ih hm
      omega

private theorem outline_number {format : String} {type : DataType} (h : named format = type) :
    Outline.ofJson (v.number format) = .leaf type := by
  subst h
  cases v <;> rfl

private theorem outline_option (inner : DataType) :
    Outline.ofJson (encode v (.option inner)) = .option (inner.encode v) := by
  cases v <;> rfl

private theorem outline_list (item : DataType) :
    Outline.ofJson (encode v (.list item)) = .list (item.encode v) := by
  cases v <;> rfl

private theorem outline_struct (fields : List Argument) :
    Outline.ofJson (encode v (.struct fields)) = .struct (fields.map (encodeField v)) := by
  rw [← encodeFields_eq_map]
  cases v <;> rfl

private theorem outline_tuple (items : List DataType) :
    Outline.ofJson (encode v (.tuple items)) = .tuple (items.map (encode v)) := by
  rw [← encodeItems_eq_map]
  cases v <;> rfl

private theorem variantNames_map (variants : List String) :
    Outline.variantNames (variants.map fun name =>
      .object (v.tag "enumEmptyVariantTypeNode" ++ [("name", .text name)])) = variants := by
  have variant : ∀ index name, Outline.variantName index
      (.object (v.tag "enumEmptyVariantTypeNode" ++ [("name", .text name)])) = name := by
    intro index name
    cases v <;> rfl
  rw [Outline.variantNames, List.zipIdx_map, List.map_map]
  refine Eq.trans (List.map_congr_left fun item _ => ?_) (List.zipIdx_map_fst 0 variants)
  exact variant item.2 item.1

private theorem outline_enum (variants : List String) :
    Outline.ofJson (encode v (.enum variants)) = .leaf (.enum variants) := by
  have names := variantNames_map (v := v) variants
  cases v <;> exact congrArg (fun names => Outline.leaf (.enum names)) names

private theorem fieldOutline_object {kind name : String} {docs : List String} {optional : Bool}
    (type : Json) (index : Nat) (h : Docs.Trimmed docs) :
    FieldOutline.ofJson index (Argument.object v kind name docs optional type) =
      ⟨name, docs, optional, type, true⟩ := by
  have read : FieldOutline.ofJson index (Argument.object v kind name docs optional type) =
      ⟨name, Docs.ofJson (.texts docs), optional || false, type, true⟩ := by
    cases v <;> cases optional <;> rfl
  rw [read, Docs.ofJson_texts h, Bool.or_false]

private theorem readAt_encode (levels : Nat) (context : String) (type : DataType)
    (known : type.Known)
    (deep : type.depth < levels) : readAt levels context (type.encode v) = .ok type := by
  induction levels generalizing context type with
  | zero => omega
  | succ levels ih =>
    rw [readAt]
    cases type with
    | integer bits signed => rw [encode, outline_number (named_integerName signed known)]
    | float bits => rw [encode, outline_number (named_floatName known)]
    | bool | string | publicKey | bytes | defined name => cases v <;> rfl
    | enum variants => rw [outline_enum]
    | unknown what => exact known.elim
    | option inner =>
      simp only [Known, depth] at known deep
      simp only [outline_option, ih context inner known (by omega)]
      rfl
    | list item =>
      simp only [Known, depth] at known deep
      simp only [outline_list, ih context item known (by omega)]
      rfl
    | struct fields =>
      simp only [Known, depth] at known deep
      have read : readFields (readAt levels) context (fields.map (encodeField v)) = .ok fields := by
        refine mapM_zipIdx_map 0 fun index field hf => ?_
        obtain ⟨trimmed, inner⟩ := known_of_mem_fields known hf
        have below := depth_lt_of_mem_fields hf
        simp only [encodeField, fieldOutline_object _ index trimmed]
        exact except_bind_eq_ok.mpr ⟨field.type, ih _ _ inner (by omega), by cases field; rfl⟩
      simp only [outline_struct, read]
      rfl
    | tuple items =>
      simp only [Known, depth] at known deep
      have read : (items.map (encode v)).mapM (readAt levels context) = .ok items := by
        refine mapM_map fun item hi => ?_
        have below := depth_lt_of_mem_items hi
        exact ih context item (known_of_mem_items known hi) (by omega)
      simp only [outline_tuple, read]
      rfl

private theorem ofMembers_encode {context : String} {members : Json.Members} {type : DataType}
    (found : members.get? "type" = some (type.encode v)) (h : type.Writable) :
    DataType.ofMembers context members = .ok type := by
  have read := readAt_encode (v := v) (maxTypeDepth + 1) context type h.1 (Nat.lt_succ_of_le h.2)
  simp only [ofMembers, found, DataType.read, read, TooDeep.orRefuse]

end DataType

namespace Argument

private theorem ofJson_encode (instruction : String) {argument : Argument}
    (trimmed : Docs.Trimmed argument.docs) (writable : argument.type.Writable) :
    ofJson instruction (argument.encode v) = .ok argument := by
  obtain ⟨name, docs, optional, type⟩ := argument
  let members : Json.Members := v.tag "instructionArgumentNode" ++
    [("name", .text name), ("type", type.encode v), ("docs", .texts docs),
      ("isOptional", .bool optional)]
  have found (key : String) (h : key ≠ "kind") : members.get? key = Json.Members.get?
      [("name", .text name), ("type", type.encode v), ("docs", .texts docs),
        ("isOptional", .bool optional)] key := Json.Members.get?_tag_append h
  have named : Json.Members.text? members "name" = some name := by
    simp [Json.Members.text?, found, Json.Members.get?_cons, Json.asText?]
  have flag : isOptional members = optional := by
    simp [isOptional, Json.Members.anyTrue, Json.Members.isTrue, found, Json.Members.get?_cons,
      Json.asBool?]
  have read : DataType.ofMembers (instruction ++ "." ++ name) members = .ok type :=
    DataType.ofMembers_encode (v := v) (by simp [found, Json.Members.get?_cons]) writable
  have lines : Docs.ofMembers members = docs :=
    Docs.ofMembers_eq (by simp [found, Json.Members.get?_cons]) trimmed
  have same : nameOf (encode v (.mk name docs optional type)) = name := by
    simp only [nameOf]
    exact congrArg (·.getD unnamed) named
  refine except_bind_eq_ok.mpr ⟨type, ?_, ?_⟩
  · rw [same]
    exact read
  · rw [same]
    change Except.ok (Argument.mk name (Docs.ofMembers members) (isOptional members) type) = _
    rw [lines, flag]

end Argument

namespace AccountSlot

private theorem get?_tail {underPda : Bool} {role : Option String} {seeds : Option (List Json)}
    {key : String} :
    Json.Members.get? (ifPresent "role" role .text ++ seedsMember underPda seeds) key =
      if key = "role" then role.map .text
      else if underPda then
        if key = "pda" then seeds.map fun items => .object [("seeds", .list items)] else none
      else if key = "seeds" then seeds.map .list else none := by
  rw [Json.Members.get?_append, seedsMember]
  by_cases h : key = "role"
  · subst h
    cases role <;> cases underPda <;> simp [Json.Members.get?_ifPresent]
  · cases underPda <;> simp [Json.Members.get?_ifPresent, h]

private theorem text_of_role (role : Option String) :
    (role.map Json.text).bind Json.asText? = role := by
  cases role <;> rfl

private theorem list_of_seeds (seeds : Option (List Json)) :
    (seeds.map Json.list).bind Json.asList? = seeds := by
  cases seeds <;> rfl

private theorem list_of_pda (seeds : Option (List Json)) :
    ((seeds.map fun items => Json.object [("seeds", .list items)]).bind
      (Json.get? · "seeds")).bind Json.asList? = seeds := by
  cases seeds <;> rfl

private theorem ofMembers_encodeMembers (spelling : AccountSpelling) {slot : AccountSlot}
    (trimmed : Docs.Trimmed slot.docs) : ofMembers (slot.encodeMembers v spelling) = slot := by
  obtain ⟨name, docs, signer, writable, optional, role, seeds⟩ := slot
  obtain ⟨signerKey, writableKey, optionalKey, underPda, hs, hw, ho⟩ := spelling
  simp only [List.mem_cons, List.not_mem_nil, or_false] at hs hw ho
  rcases hs with rfl | rfl <;> rcases hw with rfl | rfl | rfl <;> rcases ho with rfl | rfl <;>
    cases underPda <;>
    simp [ofMembers, encodeMembers, Json.Members.text?, Json.Members.anyTrue, Json.Members.isTrue,
      Outline.firstOf, Json.Members.get?_tag_append, Json.Members.get?_cons, get?_tail, isSigner,
      Json.asText?, Json.asBool?, Docs.ofMembers, Docs.ofJson_texts trimmed, text_of_role,
      list_of_seeds, list_of_pda]

private theorem flatten_encode (spelling : AccountSpelling) {slot : AccountSlot}
    (trimmed : Docs.Trimmed slot.docs) : flatten (slot.encode v spelling) = [slot] := by
  have single : Json.Members.list? (slot.encodeMembers v spelling) "accounts" = none := by
    obtain ⟨signerKey, writableKey, optionalKey, underPda, hs, hw, ho⟩ := spelling
    have hs : "accounts" ≠ signerKey := fun h => absurd (h ▸ hs) (by decide)
    have hw : "accounts" ≠ writableKey := fun h => absurd (h ▸ hw) (by decide)
    have ho : "accounts" ≠ optionalKey := fun h => absurd (h ▸ ho) (by decide)
    simp [encodeMembers, Json.Members.list?, Json.Members.get?_tag_append,
      Json.Members.get?_cons, get?_tail, hs, hw, ho]
  simp only [encode, flatten, groupIn_eq, single, Option.map_none,
    ofMembers_encodeMembers spelling trimmed]

private theorem flattenAll_encode (spelling : AccountSlot → AccountSpelling)
    {slots : List AccountSlot} (trimmed : ∀ slot ∈ slots, Docs.Trimmed slot.docs) :
    flattenAll (slots.map fun slot => slot.encode v (spelling slot)) = slots := by
  induction slots with
  | nil => rfl
  | cons slot rest ih =>
    have first := flatten_encode (v := v) (spelling slot) (trimmed slot List.mem_cons_self)
    have more := ih fun other h => trimmed other (List.mem_cons_of_mem slot h)
    rw [List.map_cons, flattenAll, first, more, List.singleton_append]

end AccountSlot

namespace Instruction

variable {spelling : AccountSlot → AccountSpelling}

private theorem ofJson_encode (index : Nat) {instruction : Instruction}
    (named : ¬ Text.isBlankText instruction.name) (trimmed : Docs.Trimmed instruction.docs)
    (slots : ∀ slot ∈ instruction.accounts, Docs.Trimmed slot.docs)
    (arguments : ∀ argument ∈ instruction.arguments,
      Docs.Trimmed argument.docs ∧ argument.type.Writable) :
    ofJson index (instruction.encode v spelling) = .ok instruction := by
  obtain ⟨name, docs, accounts, args⟩ := instruction
  let values := args.map (Argument.encode v)
  let entries := accounts.map fun slot => slot.encode v (spelling slot)
  let members : Json.Members := v.tag "instructionNode" ++
    [("name", .text name), ("docs", .texts docs), ("accounts", .list entries),
      (v.word "args" "arguments", .list values)]
  have found (key : String) (h : key ≠ "kind") : members.get? key = Json.Members.get?
      [("name", .text name), ("docs", .texts docs), ("accounts", .list entries),
        (v.word "args" "arguments", .list values)] key := Json.Members.get?_tag_append h
  have name_eq : nameOf? members = some name := by
    simp [nameOf?, Json.Members.text?, found, Json.Members.get?_cons, Json.asText?,
      Option.filter, named]
  have values_eq : argumentsOf members = values := by
    cases v <;> simp [argumentsOf, Json.Members.items, Json.Members.list?, found,
      Json.Members.get?_cons, Json.asList?, Vocabulary.word]
  have entries_eq : members.items "accounts" = entries := by
    simp [Json.Members.items, Json.Members.list?, found, Json.Members.get?_cons, Json.asList?]
  have lines : Docs.ofMembers members = docs :=
    Docs.ofMembers_eq (by simp [found, Json.Members.get?_cons]) trimmed
  have read : values.mapM (Argument.ofJson name) = .ok args :=
    mapM_map fun argument h => Argument.ofJson_encode name (arguments argument h).1
      (arguments argument h).2
  have flat : AccountSlot.flattenAll entries = accounts :=
    AccountSlot.flattenAll_encode spelling slots
  change ofJson index (.object members) = _
  simp only [ofJson, Json.asObject?, name_eq, values_eq, entries_eq, lines, read, flat]
  rfl

end Instruction

namespace TypeDefinition

private theorem ofMembers_encode {definition : TypeDefinition} {members : Json.Members}
    (found : members.get? "type" = some (definition.type.encode v))
    (lines : members.get? "docs" = some (.texts definition.docs))
    (trimmed : Docs.Trimmed definition.docs) (writable : definition.type.Writable) :
    ofMembers definition.name members = .ok definition := by
  have read : DataType.ofMembers definition.name members = .ok definition.type :=
    DataType.ofMembers_encode found writable
  simp only [ofMembers, read, Docs.ofMembers_eq lines trimmed]
  rfl

def encodeMembers (v : Vocabulary) (definition : TypeDefinition) : Json.Members :=
  v.tag "definedTypeNode" ++
    [("name", .text definition.name), ("docs", .texts definition.docs),
      ("type", definition.type.encode v)]

private theorem named_encode (definitions : List TypeDefinition) :
    named (definitions.map (encode v)) =
      definitions.map fun definition => (definition.name, definition.encodeMembers v) := by
  have one (definition : TypeDefinition) :
      Json.Members.text? (definition.encodeMembers v) "name" = some definition.name := by
    simp [encodeMembers, Json.Members.text?, Json.Members.get?_tag_append,
      Json.Members.get?_cons, Json.asText?]
  induction definitions with
  | nil => rfl
  | cons definition rest ih =>
    rw [named] at ih ⊢
    have first : (definition.encode v).asObject? = some (definition.encodeMembers v) := rfl
    simp only [List.map_cons, List.filterMap_cons, first, one, Option.map_some]
    exact congrArg _ ih

private theorem mapM_named_encode {definitions : List TypeDefinition}
    (h : ∀ definition ∈ definitions, Docs.Trimmed definition.docs ∧ definition.type.Writable) :
    (named (definitions.map (encode v))).mapM (fun (name, members) => ofMembers name members) =
      .ok definitions := by
  rw [named_encode]
  refine mapM_map fun definition hd => ?_
  refine ofMembers_encode (v := v) ?_ ?_ (h definition hd).1 (h definition hd).2
  · simp [encodeMembers, Json.Members.get?_tag_append, Json.Members.get?_cons]
  · simp [encodeMembers, Json.Members.get?_tag_append, Json.Members.get?_cons]

end TypeDefinition

namespace ErrorCode

private theorem inRange_of_lt {code : Nat} (h : code < twoTo 32) : Json.Number.InRange code := by
  have small : twoTo 32 = 4294967296 := rfl
  have lowest : twoTo 63 = 9223372036854775808 := rfl
  have highest : twoTo 64 = 18446744073709551616 := rfl
  unfold Json.Number.InRange
  rw [lowest, highest]
  rw [small] at h
  refine ⟨?_, ?_⟩ <;> simp only [Int.ofNat_eq_natCast] <;> omega

private theorem asNat?_whole {code : Nat} (inRange : Json.Number.InRange code) :
    (Json.number (.whole code inRange)).asNat? = some code := by
  rw [Json.asNat?, Json.Number.toNat?, if_pos (Int.natCast_nonneg _), Int.toNat_natCast]

private theorem codeJson_eq {code : Nat} {number : Json.Number}
    (h : Json.Number.ofInt? code = some number) : codeJson code = .number number := by
  rw [codeJson, h, Option.map_some, Option.getD_some]

private theorem ofInt?_eq {n : Int} (inRange : Json.Number.InRange n) :
    Json.Number.ofInt? n = some (.whole n inRange) :=
  dif_pos inRange

private theorem asNat?_codeJson {code : Nat} (h : code < twoTo 32) :
    (codeJson code).asNat? = some code := by
  rw [codeJson_eq (ofInt?_eq (inRange_of_lt h))]
  exact asNat?_whole _

private theorem ofMembers?_eq {members : Json.Members} {error : ErrorCode}
    (number : (members.get? "code").bind Json.asNat? = some error.code)
    (named : members.text? "name" = some error.name)
    (told : ((members.text? "msg").orElse fun _ => members.text? "message") = error.message)
    (small : error.code < twoTo 32) : ofMembers? members = some error := by
  have inside : ¬ twoTo 32 ≤ error.code := Nat.not_le.mpr small
  unfold ofMembers?
  rw [number, told, named]
  simp only [Option.bind_eq_bind, Option.bind_some, if_neg inside]
  rfl

private theorem ofMembers?_encode {error : ErrorCode} (h : error.code < twoTo 32) :
    (error.encode v).asObject?.bind ofMembers? = some error := by
  obtain ⟨code, name, message⟩ := error
  let own : Json.Members := [("code", codeJson code), ("name", .text name)] ++
    ifPresent (v.word "msg" "message") message .text
  let members : Json.Members := v.tag "errorNode" ++ own
  have found (key : String) (h : key ≠ "kind") : members.get? key = own.get? key :=
    Json.Members.get?_tag_append h
  have first : own.get? "code" = some (codeJson code) := Json.Members.get?_cons
  change ofMembers? members = _
  refine ofMembers?_eq ?_ ?_ ?_ h
  · rw [found "code" (by decide), first, Option.bind_some, asNat?_codeJson h]
  · rw [Json.Members.text?, found "name" (by decide)]
    rfl
  · rw [Json.Members.text?, Json.Members.text?, found "msg" (by decide),
      found "message" (by decide)]
    cases v <;> cases message <;> rfl

private theorem filterMap_encode {errors : List ErrorCode}
    (h : ∀ error ∈ errors, error.code < twoTo 32) :
    ((errors.map (encode v)).filterMap Json.asObject?).filterMap ofMembers? = errors := by
  rw [List.filterMap_filterMap, List.filterMap_map]
  refine (List.filterMap_congr fun error he => ?_).trans List.filterMap_some
  exact ofMembers?_encode (h error he)

end ErrorCode

namespace Program

variable (v : Vocabulary) (spelling : AccountSlot → AccountSpelling) (program : Program)

private theorem get?_encodeMembers (key : String) (h : key ≠ "kind") :
    Json.Members.get? (program.encodeMembers v spelling) key = Json.Members.get?
      ([("name", .text program.name), ("version", .text program.version),
        ("metadata", .object program.metadata),
        ("instructions", .list (program.instructions.map (Instruction.encode v spelling))),
        ("accounts", .list (program.accountTypes.map fun name =>
          .object (v.tag "accountNode" ++ [("name", .text name)]))),
        (v.word "types" "definedTypes", .list (program.types.map (TypeDefinition.encode v))),
        ("errors", .list (program.errors.map (ErrorCode.encode v)))] ++
      ifPresent (v.word "address" "publicKey") program.address .text) key :=
  Json.Members.get?_tag_append h

private theorem firstText_cons {members : Json.Members} {key : String}
    {others : List (Json.Members × String)} :
    firstText ((members, key) :: others) = (members.text? key).or (firstText others) := by
  cases found : members.text? key <;> simp [firstText, found]

private theorem instructions_encode :
    Json.Members.list? (program.encodeMembers v spelling) "instructions" =
      some (program.instructions.map (Instruction.encode v spelling)) := by
  rw [Json.Members.list?, get?_encodeMembers _ _ _ _ (by decide)]
  rfl

private theorem accounts_encode :
    (Json.Members.items (program.encodeMembers v spelling) "accounts").filterMap
      (Json.textAt? · "name") = program.accountTypes := by
  have found : Json.Members.items (program.encodeMembers v spelling) "accounts" =
      program.accountTypes.map fun name =>
        .object (v.tag "accountNode" ++ [("name", .text name)]) := by
    rw [Json.Members.items, Json.Members.list?, get?_encodeMembers _ _ _ _ (by decide)]
    rfl
  rw [found, List.filterMap_map]
  refine (List.filterMap_congr fun name _ => ?_).trans List.filterMap_some
  cases v <;> rfl

private theorem typesOf_encode :
    typesOf (program.encodeMembers v spelling) = program.types.map (TypeDefinition.encode v) := by
  rw [typesOf, Json.Members.items, Json.Members.list?, Json.Members.list?,
    get?_encodeMembers _ _ _ _ (by decide), get?_encodeMembers _ _ _ _ (by decide)]
  cases v
  · rfl
  · cases program.address <;> rfl

private theorem errors_encode :
    Json.Members.items (program.encodeMembers v spelling) "errors" =
      program.errors.map (ErrorCode.encode v) := by
  rw [Json.Members.items, Json.Members.list?, get?_encodeMembers _ _ _ _ (by decide)]
  cases v <;> rfl

private theorem metadata_encode :
    (Json.Members.get? (program.encodeMembers v spelling) "metadata").bind Json.asObject? =
      some program.metadata := by
  rw [get?_encodeMembers _ _ _ _ (by decide)]
  rfl

private theorem name_encode {others : List (Json.Members × String)} :
    firstText ((program.encodeMembers v spelling, "name") :: others) = some program.name := by
  have found : Json.Members.text? (program.encodeMembers v spelling) "name" =
      some program.name := by
    rw [Json.Members.text?, get?_encodeMembers _ _ _ _ (by decide)]
    rfl
  rw [firstText_cons, found, Option.some_or]

private theorem version_encode {others : List (Json.Members × String)} :
    firstText ((program.encodeMembers v spelling, "version") :: others) = some program.version := by
  have found : Json.Members.text? (program.encodeMembers v spelling) "version" =
      some program.version := by
    rw [Json.Members.text?, get?_encodeMembers _ _ _ _ (by decide)]
    rfl
  rw [firstText_cons, found, Option.some_or]

private theorem address_encode (silent : ∀ address, ("address", address) ∉ program.metadata) :
    firstText [(program.metadata, "address"), (program.encodeMembers v spelling, "address"),
      (program.encodeMembers v spelling, "publicKey")] = program.address := by
  have none : Json.Members.get? program.metadata "address" = none := by
    rw [Json.Members.get?, List.lookup_eq_none_iff]
    rintro ⟨key, value⟩ hm
    rw [bne_iff_ne]
    rintro rfl
    exact silent value hm
  rw [firstText_cons, firstText_cons, firstText_cons, Json.Members.text?, Json.Members.text?,
    Json.Members.text?, none, get?_encodeMembers _ _ _ _ (by decide),
    get?_encodeMembers _ _ _ _ (by decide)]
  cases v <;> cases program.address <;> rfl

private theorem locate_eq_ok {document object : Json.Members}
    (usable : ¬ ((document.get? "instructions").isSome ∧ (document.list? "instructions").isNone))
    (single : (candidates document).filter (fun c => (c.list? "instructions").isSome) = [object]) :
    locate document = .ok object := by
  rw [locate, single, if_neg usable, List.find?_singleton]
  cases !(object.items "instructions").isEmpty <;> rfl

private theorem locate_encode :
    ∃ document, (program.encode v spelling).asObject? = some document ∧
      locate document = .ok (program.encodeMembers v spelling) := by
  have listed := instructions_encode v spelling program
  cases v with
  | anchor =>
    refine ⟨program.encodeMembers .anchor spelling, rfl, locate_eq_ok ?_ ?_⟩
    · simp [listed]
    · have alone : candidates (program.encodeMembers .anchor spelling) =
          [program.encodeMembers .anchor spelling] := by
        simp only [candidates, Json.Members.items, Json.Members.list?,
          get?_encodeMembers .anchor spelling program "program" (by decide),
          get?_encodeMembers .anchor spelling program "programs" (by decide)]
        cases program.address <;> rfl
      rw [alone, List.filter_singleton, listed, Option.isSome_some, cond_true]
  | codama =>
    let document : Json.Members :=
      [("kind", .text "rootNode"), ("program", .object (program.encodeMembers .codama spelling))]
    refine ⟨document, rfl, locate_eq_ok (fun h => nomatch h.1) ?_⟩
    have both : candidates document = [document, program.encodeMembers .codama spelling] := rfl
    have bare : document.list? "instructions" = none := rfl
    simp [both, bare, listed]

/-- A program is read back from what is written for it in either vocabulary, whatever spelling each
of its accounts has. -/
theorem ofJson_encode_of_canonical (h : program.Canonical) :
    ofJson (program.encode v spelling) = .ok program := by
  obtain ⟨document, object, located⟩ := locate_encode v spelling program
  have instructions : (program.instructions.map (Instruction.encode v spelling)).zipIdx.mapM
      (fun item => Instruction.ofJson item.2 item.1) = .ok program.instructions :=
    mapM_zipIdx_map 0 fun index instruction hi => Instruction.ofJson_encode index
      (h.named _ hi) (h.instructionDocs _ hi) (h.accountDocs _ hi) (h.arguments _ hi)
  have items : Json.Members.items (program.encodeMembers v spelling) "instructions" =
      program.instructions.map (Instruction.encode v spelling) := by
    rw [Json.Members.items, instructions_encode, Option.getD_some]
  have distinct := Instruction.checkNames_eq_ok.mpr h.distinct
  have types := TypeDefinition.mapM_named_encode (v := v) h.types
  have errors := ErrorCode.filterMap_encode (v := v) h.codes
  have address := address_encode v spelling program h.metadata
  simp only [ofJson, object, located]
  refine except_bind_eq_ok.mpr ⟨_, rfl, ?_⟩
  rw [← items] at instructions
  refine except_bind_eq_ok.mpr ⟨program.instructions, instructions, ?_⟩
  refine except_bind_eq_ok.mpr ⟨(), distinct, ?_⟩
  refine except_bind_eq_ok.mpr ⟨program.types, typesOf_encode v spelling program ▸ types, ?_⟩
  simp only [metadata_encode, Option.getD_some, name_encode, version_encode, address,
    accounts_encode, errors_encode, errors]
  rfl

/-- A program with a derived account, nested types and a silent error code. -/
def vault : Program where
  name := "vault"
  version := "1.2.0"
  metadata := [("origin", .text "test")]
  address := some "Vau1t"
  instructions :=
    [{ name := "deposit"
       docs := ["Moves coins in."]
       accounts :=
         [⟨"owner", [], true, true, false, none, none⟩,
          ⟨"safe", ["Holds the coins."], false, true, true, some "pda", some [.text "safe"]⟩]
       arguments :=
         [.mk "amount" ["In coins."] false (.integer 64 false),
          .mk "memo" [] true (.option .string)] },
     { name := "close", docs := [], accounts := [], arguments := [] }]
  accountTypes := ["Safe"]
  types :=
    [⟨"Safe", [], .struct
        [.mk "owner" [] false .publicKey,
         .mk "history" [] false (.list (.tuple [.float 64, .defined "Mode"]))]⟩,
     ⟨"Mode", ["How it is used."], .enum ["Open", "Shut"]⟩]
  errors := [⟨6000, "Full", some "no room"⟩, ⟨6001, "Shut", none⟩]

/-- The vault is read back with flags and seeds of either style in both vocabularies. -/
theorem ofJson_encode_vault :
    ofJson (vault.encode .anchor fun _ => ⟨"isSigner", "isMut", "isOptional", false, by decide,
      by decide, by decide⟩) = .ok vault ∧
    ofJson (vault.encode .codama fun _ => ⟨"signer", "writable", "optional", true, by decide,
      by decide, by decide⟩) = .ok vault := by
  have canonical : vault.Canonical := by
    constructor <;>
      simp [vault, Docs.Trimmed, DataType.Writable, DataType.Known, DataType.KnownFields,
        DataType.KnownItems, DataType.depth, DataType.depthFields, DataType.depthItems,
        maxTypeDepth, DataType.integerWidths, Argument.docs, Argument.type] <;> decide +kernel
  exact ⟨ofJson_encode_of_canonical _ _ _ canonical, ofJson_encode_of_canonical _ _ _ canonical⟩

end Program

end UiScaffold
