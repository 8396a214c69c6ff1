import ConnectorProfiles.Proofs.Claims.Grammar
import ConnectorProfiles.Proofs.Document.Records
import ConnectorProfiles.Proofs.Json.Documents

/-!
# Reading JSON values

What is read from the document of a JSON value, by the shape of the value: texts, lists and maps,
and the fields of a record, which an object gives by its keys and an array by its positions. An
object whose keys are the fields of a record gives all of them.
-/

namespace ConnectorProfiles

variable {α : Type}

namespace Json

/-- The part at a position that an array may end before. -/
def DenotesOptionalItem (Part : Json → α → Prop) (missing : α) (items : List Json) (i : Nat)
    (part : α) : Prop :=
  (items[i]? = none ∧ part = missing) ∨ ∃ value, items[i]? = some value ∧ Part value part

/-- The part at a position of an array. -/
def DenotesItem (Part : Json → α → Prop) (items : List Json) (i : Nat) (part : α) : Prop :=
  ∃ value, items[i]? = some value ∧ Part value part

/-- An object of texts denotes the map of its keys, each to the last text under it. -/
inductive DenotesTexts : Json → NameMap String → Prop
  | object {members : List (String × Json)} {texts : NameMap String}
      (each : ∀ member ∈ members, ∃ text, DenotesText member.2 text)
      (last : ∀ name text, texts.get? name = some text ↔ Last members name (.string text)) :
      DenotesTexts (.object members) texts

/-! ### Positions -/

section Positions

variable {Part : Json → α → Prop} {missing : α} {items : List Json} {i : Nat} {part : α}

/-- The part at the position of an item is what the item denotes. -/
theorem denotesItem_iff {value : Json} (h : items[i]? = some value) :
    DenotesItem Part items i part ↔ Part value part := by
  simp [DenotesItem, h]

/-- A part that may be missing is there where the array goes beyond its position. -/
theorem denotesOptionalItem_iff_of_lt (h : i < items.length) :
    DenotesOptionalItem Part missing items i part ↔ DenotesItem Part items i part := by
  rw [DenotesOptionalItem, DenotesItem, List.getElem?_eq_none_iff, or_iff_right]
  exact fun hnone ↦ absurd hnone.1 (Nat.not_le.mpr h)

/-- An array goes beyond the position of a part. -/
theorem DenotesItem.lt (h : DenotesItem Part items i part) : i < items.length := by
  obtain ⟨value, hvalue, -⟩ := h
  exact (List.getElem?_eq_some_iff.mp hvalue).1

variable {names : List String} {name : String}

/-- Under its name, a value by position is the item at the position of the name. -/
theorem denotesPart_zip_iff (hnames : names.Nodup) (hname : names[i]? = some name) :
    DenotesPart Part (names.zip items) name part ↔ DenotesItem Part items i part := by
  simp only [DenotesPart, DenotesItem, once_zip_iff hnames hname]

/-- Under its name, a value by position is missing where the array ends before that position. -/
theorem denotesOptionalPart_zip_iff (hnames : names.Nodup) (hname : names[i]? = some name) :
    DenotesOptionalPart Part missing (names.zip items) name part ↔
      DenotesOptionalItem Part missing items i part := by
  simp only [DenotesOptionalPart, DenotesOptionalItem, lacks_zip_iff hnames hname,
    once_zip_iff hnames hname]

end Positions

/-! ### Texts, lists and maps -/

section Values

variable {value : Json}

/-- A text is read from a value that denotes it. -/
theorem text_toDocument_eq_ok_iff {text : String} :
    value.toDocument.text = .ok text ↔ DenotesText value text := by
  constructor
  · intro h
    cases value with
    | string given =>
      rw [← Except.ok.inj h]
      exact .string given
    | number number => cases number <;> cases h
    | _ => cases h
  · rintro ⟨⟩
    rfl

/-- A text or nothing is read from a value that denotes it. -/
theorem optional_text_toDocument_eq_ok_iff {text : Option String} :
    value.toDocument.optional Document.text = .ok text ↔ DenotesOptionalText value text := by
  constructor
  · intro h
    cases value with
    | null =>
      rw [← Except.ok.inj h]
      exact .null
    | string given =>
      rw [← Except.ok.inj h]
      exact .string given
    | number number => cases number <;> cases h
    | _ => cases h
  · rintro (_ | _)
    · rfl
    · rfl

/-- A list is read from an array whose items are read. -/
theorem listOf_toDocument_eq_ok_iff {read : Document → Read α} {parts : List α} :
    value.toDocument.listOf read = .ok parts ↔ ∃ items, value = .array items ∧
      List.Forall₂ (fun item part ↦ read item.toDocument = .ok part) items parts := by
  cases value with
  | array items =>
    simp only [toDocument_array, Document.listOf, bind_eq_ok_iff, pure_eq_ok_iff, mapM_eq_ok_iff,
      List.forall₂_map_left_iff, array.injEq, exists_eq_left']
    constructor
    · rintro ⟨_, hparts, -, -, rfl⟩
      exact hparts
    · intro hparts
      exact ⟨parts, hparts, (), rfl, rfl⟩
  | object members => simp [Document.listOf]
  | number number => cases number <;> simp [toDocument, Document.listOf]
  | null | bool | string => simp [toDocument, Document.listOf]

/-- A list is read back from the array of its items. -/
theorem listOf_array_map {read : Document → Read α} {toJson : α → Json} {parts : List α}
    (h : ∀ part ∈ parts, read (toJson part).toDocument = .ok part) :
    (Json.array (parts.map toJson)).toDocument.listOf read = .ok parts :=
  listOf_toDocument_eq_ok_iff.mpr ⟨_, rfl, forall₂_map_self_iff.mpr h⟩

/-- Texts stand under their keys where every value is a text. -/
theorem exists_texts {members : List (String × Json)}
    (h : ∀ member ∈ members, ∃ text, DenotesText member.2 text) :
    ∃ entries : List (String × String),
      members = entries.map fun entry ↦ (entry.1, .string entry.2) := by
  have heach : ∀ member ∈ members, ∃ entry : String × String,
      member = (entry.1, .string entry.2) := by
    rintro ⟨key, value⟩ hmember
    obtain ⟨text, ⟨⟩⟩ := h _ hmember
    exact ⟨(key, text), rfl⟩
  obtain ⟨entries, hentries⟩ := exists_forall₂_iff.mpr heach
  exact ⟨entries, eq_map_of_forall₂ hentries fun _ _ _ hentry ↦ hentry⟩

/-- The map of some texts is what the object of the texts denotes. -/
theorem denotesTexts_map_iff {entries : List (String × String)} {texts : NameMap String} :
    DenotesTexts (.object (entries.map fun entry ↦ (entry.1, .string entry.2))) texts ↔
      texts = NameMap.ofList entries := by
  have hlast (name text : String) :
      Last (entries.map fun entry ↦ (entry.1, Json.string entry.2)) name (.string text) ↔
        (NameMap.ofList entries).get? name = some text := by
    simp [last_map_iff, NameMap.get?_ofList_eq_some_iff]
  constructor
  · rintro ⟨-, last⟩
    ext name text
    rw [last, hlast]
  · rintro rfl
    refine .object ?_ fun name text ↦ (hlast name text).symm
    rw [List.forall_mem_map]
    exact fun entry _ ↦ ⟨entry.2, .string entry.2⟩

/-- Entries are read from members that hold their texts. -/
theorem forall₂_text_iff {members : List (String × Json)} {entries : List (String × String)} :
    List.Forall₂ (fun member entry ↦ ∃ text, member.2.toDocument.text = .ok text ∧
      (member.1, text) = entry) members entries ↔
    members = entries.map fun entry ↦ (entry.1, .string entry.2) := by
  constructor
  · refine fun h ↦ eq_map_of_forall₂ h ?_
    rintro ⟨key, value⟩ - _ ⟨text, htext, rfl⟩
    obtain ⟨⟩ := text_toDocument_eq_ok_iff.mp htext
    rfl
  · rintro rfl
    rw [forall₂_map_self_iff]
    exact fun entry _ ↦ ⟨entry.2, rfl, rfl⟩

/-- A map of texts is read from a value that denotes it. -/
theorem mapOf_text_toDocument_eq_ok_iff {texts : NameMap String} :
    value.toDocument.mapOf Document.text = .ok texts ↔ DenotesTexts value texts := by
  cases value with
  | object members =>
    simp only [toDocument_object, Document.mapOf, bind_eq_ok_iff, pure_eq_ok_iff, mapM_eq_ok_iff,
      List.forall₂_map_left_iff, forall₂_text_iff]
    constructor
    · rintro ⟨entries, rfl, -, -, rfl⟩
      exact denotesTexts_map_iff.mpr rfl
    · intro h
      cases h with
      | object each last =>
        obtain ⟨entries, rfl⟩ := exists_texts each
        exact ⟨entries, rfl, (), rfl, (denotesTexts_map_iff.mp (.object each last)).symm⟩
  | array items =>
    rw [toDocument_array]
    constructor
    · intro h
      cases h
    · intro h
      cases h
  | number number =>
    constructor
    · intro h
      cases number <;> cases h
    · intro h
      cases h
  | null | bool | string =>
    constructor
    · intro h
      cases h
    · intro h
      cases h

end Values

/-- A value may be passed over. -/
theorem skip_toDocument (value : Json) : value.toDocument.skip = .ok () := by
  induction value with
  | null | bool | string => rfl
  | number number => cases number <;> rfl
  | array items ih =>
    have hitems : Document.skipItems (items.map toDocument) = .ok () := by
      induction items with
      | nil => rfl
      | cons item rest hrest =>
        obtain ⟨hitem, hothers⟩ := List.forall_mem_cons.mp ih
        rw [List.map_cons, Document.skipItems, check_bind_eq_ok_iff]
        exact ⟨hitem, hrest hothers⟩
    rw [toDocument_array, Document.skip, check_bind_eq_ok_iff]
    exact ⟨hitems, rfl⟩
  | object members ih =>
    have hmembers : Document.skipMembers
        (members.map fun member ↦ (member.1, member.2.toDocument)) = .ok () := by
      induction members with
      | nil => rfl
      | cons member rest hrest =>
        obtain ⟨hmember, hothers⟩ := List.forall_mem_cons.mp ih
        rw [List.map_cons, Document.skipMembers, check_bind_eq_ok_iff]
        exact ⟨hmember, hrest hothers⟩
    rw [toDocument_object, Document.skip, check_bind_eq_ok_iff]
    exact ⟨hmembers, rfl⟩

end Json

/-! ### Records -/

/-- The documents of members, each under its key. -/
def Json.documentsOf (members : List (String × Json)) : List (String × Document) :=
  members.map fun member ↦ (member.1, member.2.toDocument)

section Fields

variable (field : Field α) {members : List (String × Json)} {Part : Json → α → Prop} {part : α}

/-- The only value of a field is read where the members have its part under its name. -/
private theorem exists_once_documentsOf_iff (hread : ∀ member ∈ members, ∀ part,
      field.read member.2.toDocument = .ok part ↔ Part member.2 part) :
    (∃ document, Once (Json.documentsOf members) field.name document ∧
        field.read document = .ok part) ↔ Json.DenotesPart Part members field.name part := by
  simp only [Json.documentsOf, once_map_iff]
  constructor
  · rintro ⟨_, ⟨value, honce, rfl⟩, hpart⟩
    exact ⟨value, honce, (hread _ honce.last.mem part).mp hpart⟩
  · rintro ⟨value, honce, hpart⟩
    exact ⟨_, ⟨value, honce, rfl⟩, (hread _ honce.last.mem part).mpr hpart⟩

/-- A field without a default is given its part. -/
theorem Field.gives_documentsOf_iff (hrequired : field.default = none)
    (hread : ∀ member ∈ members, ∀ part,
      field.read member.2.toDocument = .ok part ↔ Part member.2 part) :
    field.Gives (Json.documentsOf members) part ↔
      Json.DenotesPart Part members field.name part := by
  have hmissing : ¬ (Lacks (Json.documentsOf members) field.name ∧ field.default = some part) := by
    rw [hrequired]
    simp
  rw [Gives, exists_once_documentsOf_iff field hread, or_iff_right hmissing]

/-- A field with a default is given the part that may be missing. -/
theorem Field.gives_documentsOf_iff_of_default {missing : α}
    (hmissing : field.default = some missing)
    (hread : ∀ member ∈ members, ∀ part,
      field.read member.2.toDocument = .ok part ↔ Part member.2 part) :
    field.Gives (Json.documentsOf members) part ↔
      Json.DenotesOptionalPart Part missing members field.name part := by
  rw [Gives, exists_once_documentsOf_iff field hread, hmissing, Option.some.injEq, Json.documentsOf,
    lacks_map_iff, eq_comm (a := missing)]
  rfl

end Fields

namespace RecordShape

variable {shape : RecordShape} {Gives : List (String × Document) → Prop}

/-- What the members of an object give, a record takes unless it refuses a key among them. -/
theorem exists_lists_object_iff {members : List (String × Json)} :
    (∃ values, shape.Lists (Json.object members).toDocument values ∧ shape.Admits values ∧
        Gives values) ↔
      (shape.refusesUnknown = true → ∀ member ∈ members, member.1 ∈ shape.names) ∧
        Gives (Json.documentsOf members) := by
  have hadmits : shape.Admits (Json.documentsOf members) ↔
      (shape.refusesUnknown = true → ∀ member ∈ members, member.1 ∈ shape.names) := by
    rw [Admits, Json.documentsOf, List.forall_mem_map]
    cases shape.refusesUnknown with
    | false => simp [Json.skip_toDocument]
    | true => simp [Decidable.not_not]
  rw [← hadmits, Json.toDocument_object]
  constructor
  · rintro ⟨_, ⟨-⟩, hadmitted, hgives⟩
    exact ⟨hadmitted, hgives⟩
  · rintro ⟨hadmitted, hgives⟩
    exact ⟨_, .mapping rfl, hadmitted, hgives⟩

/-- What the items of an array give under the first names, a record takes unless they are too
many. -/
theorem exists_lists_array_iff {items : List Json} :
    (∃ values, shape.Lists (Json.array items).toDocument values ∧ shape.Admits values ∧
        Gives values) ↔
      items.length ≤ shape.names.length ∧ Gives (Json.documentsOf (shape.names.zip items)) := by
  have hzip : Json.documentsOf (shape.names.zip items) =
      shape.names.zip (items.map Json.toDocument) := by
    rw [Json.documentsOf, List.zip_map_right]
    rfl
  rw [Json.toDocument_array, hzip, names, List.length_map]
  constructor
  · rintro ⟨_, _ | ⟨-, hfit⟩, -, hgives⟩
    exact ⟨by simpa using hfit, hgives⟩
  · rintro ⟨hfit, hgives⟩
    exact ⟨_, .sequence rfl (.inl (by simpa using hfit)), shape.admits_zip _, hgives⟩

/-- A record takes nothing from a value that is neither an object nor an array. -/
theorem not_exists_lists_of_scalar {value : Json} (hobject : ∀ members, value ≠ .object members)
    (harray : ∀ items, value ≠ .array items) :
    ¬ ∃ values, shape.Lists value.toDocument values ∧ shape.Admits values ∧ Gives values := by
  rintro ⟨values, hlists, -⟩
  cases value with
  | object members => exact hobject members rfl
  | array items => exact harray items rfl
  | number number => cases number <;> cases hlists
  | null | bool | string => cases hlists

/-- The members write a record: their keys are the names of the fields, each once. -/
structure Written (shape : RecordShape) (members : List (String × Json)) : Prop where
  names : shape.names.Nodup
  keys : members.map (·.1) = shape.names

section Written

variable {members : List (String × Json)}

/-- A field is given the part that is read from the member at the position of the field. -/
theorem Written.gives (h : shape.Written members) {field : Field α} {value : Json} {part : α}
    (i : Nat) (hmember : members[i]? = some (field.name, value))
    (hread : field.read value.toDocument = .ok part) :
    field.Gives (Json.documentsOf members) part := by
  have hkeys : (members.map (·.1)).Nodup := h.keys ▸ h.names
  have honce := (once_iff_mem hkeys).mpr (List.mem_of_getElem? hmember)
  exact .inr ⟨_, once_map_iff.mpr ⟨value, honce, rfl⟩, hread⟩

/-- A record takes the members that write it. -/
theorem Written.values (h : shape.Written members)
    (hgiven : ∀ field ∈ shape.fields, field.Given (Json.documentsOf members)) :
    shape.values (Json.object members).toDocument = .ok (Json.documentsOf members) := by
  rw [Json.toDocument_object]
  refine values_eq_ok_of_given h.names (.mapping rfl) ?_ hgiven
  intro document hdocument hunknown
  obtain ⟨member, hmember, rfl⟩ := List.mem_map.mp hdocument
  rw [← h.keys] at hunknown
  exact absurd (List.mem_map_of_mem hmember) hunknown

end Written

end RecordShape

end ConnectorProfiles
