import ConnectorProfiles.Proofs.Document.Read
import ConnectorProfiles.Proofs.Json.Canonical

/-!
# Documents of JSON values

A JSON value is a document of its own. A JSON text that has a value is read as the document of that
value, so every reader finds in the text what it finds in the value.
-/

namespace ConnectorProfiles

namespace Json

mutual

/-- The document of a value. -/
def toDocument : Json → Document
  | .null => .null
  | .bool value => .bool value
  | .number (.integer value) => .integer value
  | .number (.real value) => .real (.finite value)
  | .string value => .string value
  | .array items => .sequence (itemsToDocuments items) .strict
  | .object members => .mapping (membersToDocuments members) .strict

/-- The documents of items. -/
def itemsToDocuments : List Json → List Document
  | [] => []
  | item :: rest => item.toDocument :: itemsToDocuments rest

/-- The document of the value of a member. -/
def memberToDocument : String × Json → String × Document
  | (key, value) => (key, value.toDocument)

/-- The documents of the values of members. -/
def membersToDocuments : List (String × Json) → List (String × Document)
  | [] => []
  | member :: rest => memberToDocument member :: membersToDocuments rest

end

/-- The document of an array is the sequence of the documents of its items. -/
@[simp] theorem toDocument_array (items : List Json) :
    (Json.array items).toDocument = .sequence (items.map toDocument) .strict := by
  rw [toDocument]
  congr 1
  induction items with
  | nil => rfl
  | cons item rest ih => rw [itemsToDocuments, ih, List.map_cons]

/-- The document of an object is the mapping of its keys to the documents of their values. -/
@[simp] theorem toDocument_object (members : List (String × Json)) :
    (Json.object members).toDocument =
      .mapping (members.map fun member ↦ (member.1, member.2.toDocument)) .strict := by
  rw [toDocument]
  congr 1
  induction members with
  | nil => rfl
  | cons member rest ih => rw [membersToDocuments, ih, List.map_cons, memberToDocument]

end Json

namespace Document

/-- Nothing in the document passes over what does not fit. -/
inductive Strict : Document → Prop
  | null : Strict .null
  | bool (value : Bool) : Strict (.bool value)
  | integer (value : Int) : Strict (.integer value)
  | real (value : Decimal.Double) : Strict (.real value)
  | string (value : String) : Strict (.string value)
  | sequence {items : List Document} {ending : Ending} (each : ∀ item ∈ items, Strict item)
      (closed : ending ≠ .lax) : Strict (.sequence items ending)
  | mapping {members : List (String × Document)} {ending : Ending}
      (each : ∀ member ∈ members, Strict member.2) (closed : ending ≠ .lax) :
      Strict (.mapping members ending)
  | unusable (fault : Fault) : Strict (.unusable fault)
  | broken : Strict .broken

/-- Items have values when each of them has one. -/
theorem itemsToJson_eq_ok_iff {depth : Nat} {items : List Document} {values : List Json} :
    itemsToJson depth items = .ok values ↔
      List.Forall₂ (fun item value ↦ item.toJson depth = .ok value) items values := by
  induction items generalizing values with
  | nil => rw [itemsToJson, pure_eq_ok_iff, List.forall₂_nil_left_iff, eq_comm]
  | cons item rest ih =>
    simp only [itemsToJson, bind_eq_ok_iff, pure_eq_ok_iff, List.forall₂_cons_left_iff, ih]
    constructor
    · rintro ⟨value, hvalue, values, hvalues, rfl⟩
      exact ⟨value, values, hvalue, hvalues, rfl⟩
    · rintro ⟨value, values, hvalue, hvalues, rfl⟩
      exact ⟨value, hvalue, values, hvalues, rfl⟩

/-- Members have values when each of them has one. -/
theorem membersToJson_eq_ok_iff {depth : Nat} {members : List (String × Document)}
    {values : List (String × Json)} : membersToJson depth members = .ok values ↔
      List.Forall₂ (fun member value ↦ member.1 = value.1 ∧ member.2.toJson depth = .ok value.2)
        members values := by
  induction members generalizing values with
  | nil => rw [membersToJson, pure_eq_ok_iff, List.forall₂_nil_left_iff, eq_comm]
  | cons member rest ih =>
    obtain ⟨key, document⟩ := member
    simp only [membersToJson, memberToJson, bind_eq_ok_iff, pure_eq_ok_iff,
      List.forall₂_cons_left_iff, ih]
    constructor
    · rintro ⟨_, ⟨value, hvalue, rfl⟩, values, hvalues, rfl⟩
      exact ⟨(key, value), values, ⟨rfl, hvalue⟩, hvalues, rfl⟩
    · rintro ⟨⟨key, value⟩, values, ⟨rfl, hvalue⟩, hvalues, rfl⟩
      exact ⟨_, ⟨value, hvalue, rfl⟩, values, hvalues, rfl⟩

/-- An ending that passes over nothing and is closed is strict. -/
private theorem eq_strict_of_check {ending : Ending} (hclosed : ending ≠ .lax)
    (h : ending.check = .ok ()) : ending = .strict := by
  cases ending with
  | strict => rfl
  | lax => exact absurd rfl hclosed
  | unusable | broken => cases h

/-- A strict document is the one of its value. -/
theorem Strict.eq_toDocument {document : Document} (h : document.Strict) {depth : Nat}
    {value : Json} (hvalue : document.toJson depth = .ok value) : document = value.toDocument := by
  induction h generalizing depth value with
  | null | bool | integer | string =>
    rw [toJson, pure_eq_ok_iff] at hvalue
    rw [← hvalue]
    rfl
  | real number =>
    cases number with
    | finite number =>
      rw [toJson, pure_eq_ok_iff] at hvalue
      rw [← hvalue]
      rfl
    | infinity | nan => simp [toJson, throw_ne_ok] at hvalue
  | unusable | broken => simp [toJson, throw_ne_ok] at hvalue
  | @sequence items ending _ closed ih =>
    cases depth with
    | zero => simp [toJson, throw_ne_ok] at hvalue
    | succ depth =>
      simp only [toJson, bind_eq_ok_iff, pure_eq_ok_iff, itemsToJson_eq_ok_iff] at hvalue
      obtain ⟨values, hvalues, ⟨⟩, hcheck, rfl⟩ := hvalue
      rw [eq_strict_of_check closed hcheck, Json.toDocument_array]
      congr 1
      exact eq_map_of_forall₂ hvalues fun item hitem _ h ↦ ih item hitem h
  | @mapping members ending _ closed ih =>
    cases depth with
    | zero => simp [toJson, throw_ne_ok] at hvalue
    | succ depth =>
      simp only [toJson, bind_eq_ok_iff, pure_eq_ok_iff, membersToJson_eq_ok_iff] at hvalue
      obtain ⟨values, hvalues, ⟨⟩, hcheck, rfl⟩ := hvalue
      rw [eq_strict_of_check closed hcheck, Json.toDocument_object]
      congr 1
      exact eq_map_of_forall₂ hvalues fun member hmember _ h ↦
        Prod.ext h.1 (ih member hmember h.2)

end Document

namespace Json

/-- At most `depth` arrays and objects of the value nest in each other. -/
def Within (depth : Nat) (value : Json) : Prop := value.toDocument.toJson depth = .ok value

/-- The items of an array nest less deep than the array. -/
theorem Within.item {depth : Nat} {items : List Json} (h : (array items).Within (depth + 1)) :
    ∀ item ∈ items, item.Within depth := by
  rw [Within, toDocument_array] at h
  simp only [Document.toJson, bind_eq_ok_iff, pure_eq_ok_iff, Document.itemsToJson_eq_ok_iff,
    List.forall₂_map_left_iff] at h
  obtain ⟨values, hvalues, -, -, hsame⟩ := h
  rw [array.inj hsame, List.forall₂_same] at hvalues
  exact hvalues

/-- The values of the members of an object nest less deep than the object. -/
theorem Within.member {depth : Nat} {members : List (String × Json)}
    (h : (object members).Within (depth + 1)) : ∀ member ∈ members, member.2.Within depth := by
  rw [Within, toDocument_object] at h
  simp only [Document.toJson, bind_eq_ok_iff, pure_eq_ok_iff, Document.membersToJson_eq_ok_iff,
    List.forall₂_map_left_iff] at h
  obtain ⟨values, hvalues, -, -, hsame⟩ := h
  rw [object.inj hsame, List.forall₂_same] at hvalues
  exact fun member hmember ↦ (hvalues member hmember).2

end Json

namespace JsonText

/-! ### Documents of JSON texts -/

private theorem strict_ne_lax : Ending.strict ≠ .lax := by decide

private theorem unusable_ne_lax : Ending.unusable ≠ .lax := by decide

private theorem broken_ne_lax : Ending.broken ≠ .lax := by decide

private theorem strict_number (negative : Bool) (cs : List Char) :
    (number negative cs).1.Strict := by
  rw [number]
  split
  · exact .broken
  · dsimp only
    split
    · exact .integer _
    · exact .real _
    · exact .unusable _

private theorem strict_literal {word : List Char} {document : Document} (h : document.Strict)
    (cs : List Char) : (literal word document cs).1.Strict := by
  rw [literal]
  split
  · exact h
  · exact .broken

/-- Nothing in the items that were read passes over what does not fit, and neither does their
end. -/
private def StrictItems (found : List Document × Ending × Option (List Char)) : Prop :=
  (∀ item ∈ found.1, item.Strict) ∧ found.2.1 ≠ .lax

/-- Nothing in the members that were read passes over what does not fit, and neither does their
end. -/
private def StrictMembers (found : List (String × Document) × Ending × Option (List Char)) : Prop :=
  (∀ member ∈ found.1, member.2.Strict) ∧ found.2.1 ≠ .lax

/-- Members that are taken apart and put together are strict as before. -/
private theorem strictMembers_parts
    {found : List (String × Document) × Ending × Option (List Char)} (h : StrictMembers found) :
    StrictMembers (found.1, found.2.1, found.2.2) := h

private theorem strict_value_succ {fuel : Nat} (hitems : ∀ cs, StrictItems (items fuel cs))
    (hmembers : ∀ cs, StrictMembers (members fuel cs)) (cs : List Char) :
    (value (fuel + 1) cs).1.Strict := by
  rw [value]
  split
  · exact .broken
  · split
    · exact .sequence (List.forall_mem_nil _) strict_ne_lax
    · exact .sequence (hitems _).1 (hitems _).2
  · split
    · exact .mapping (List.forall_mem_nil _) strict_ne_lax
    · exact .mapping (hmembers _).1 (hmembers _).2
  · split
    · exact .broken
    · exact .unusable _
    · exact .string _
  · exact strict_number _ _
  · split
    · exact strict_literal .null _
    · split
      · exact strict_literal (.bool _) _
      · split
        · exact strict_literal (.bool _) _
        · exact strict_number _ _

private theorem strict_items_succ {fuel : Nat} (hvalue : ∀ cs, (value fuel cs).1.Strict)
    (hitems : ∀ cs, StrictItems (items fuel cs)) (cs : List Char) :
    StrictItems (items (fuel + 1) cs) := by
  have hfirst := hvalue cs
  rw [items]
  split
  · next item hitem =>
    rw [hitem] at hfirst
    exact ⟨List.forall_mem_singleton.mpr hfirst, broken_ne_lax⟩
  · next item rest hitem =>
    rw [hitem] at hfirst
    have hsingle := List.forall_mem_singleton.mpr hfirst
    split
    · exact ⟨hsingle, strict_ne_lax⟩
    · split
      · exact ⟨hsingle, broken_ne_lax⟩
      · exact ⟨List.forall_mem_cons.mpr ⟨hfirst, (hitems _).1⟩, (hitems _).2⟩
    · exact ⟨hsingle, broken_ne_lax⟩

private theorem strict_members_succ {fuel : Nat} (hvalue : ∀ cs, (value fuel cs).1.Strict)
    (hmembers : ∀ cs, StrictMembers (members fuel cs)) (cs : List Char) :
    StrictMembers (members (fuel + 1) cs) := by
  rw [members]
  split
  · split
    · exact ⟨List.forall_mem_nil _, broken_ne_lax⟩
    · next key rest _ =>
      dsimp only
      split
      · exact ⟨List.forall_mem_nil _, broken_ne_lax⟩
      · exact ⟨List.forall_mem_nil _, unusable_ne_lax⟩
      · -- The key has a value, so the members are the ones that were read after it.
        refine strictMembers_parts ?_
        split
        · next rest _ =>
          have hfirst := hvalue rest
          split
          · next v hv =>
            rw [hv] at hfirst
            exact ⟨List.forall_mem_singleton.mpr hfirst, broken_ne_lax⟩
          · next v rest hv =>
            rw [hv] at hfirst
            split
            · exact ⟨List.forall_mem_singleton.mpr hfirst, strict_ne_lax⟩
            · exact ⟨List.forall_mem_cons.mpr ⟨hfirst, (hmembers _).1⟩, (hmembers _).2⟩
            · exact ⟨List.forall_mem_singleton.mpr hfirst, broken_ne_lax⟩
        · exact ⟨List.forall_mem_singleton.mpr .broken, broken_ne_lax⟩
  · exact ⟨List.forall_mem_nil _, broken_ne_lax⟩

/-- Values, items and members of a text are read strictly, however far they nest. -/
private theorem strict_read (fuel : Nat) : (∀ cs, (value fuel cs).1.Strict) ∧
    (∀ cs, StrictItems (items fuel cs)) ∧ ∀ cs, StrictMembers (members fuel cs) := by
  induction fuel with
  | zero =>
    exact ⟨fun _ ↦ .broken, fun _ ↦ ⟨List.forall_mem_nil _, broken_ne_lax⟩,
      fun _ ↦ ⟨List.forall_mem_nil _, broken_ne_lax⟩⟩
  | succ fuel ih =>
    obtain ⟨hvalue, hitems, hmembers⟩ := ih
    exact ⟨strict_value_succ hitems hmembers, strict_items_succ hvalue hitems,
      strict_members_succ hvalue hmembers⟩

/-- The document of a text is strict. -/
theorem strict_scan (text : String) : (scan text).root.Strict := by
  have hvalue := (strict_read (2 * text.toList.length + 2)).1 text.toList
  rw [scan]
  split
  · next hread =>
    rw [hread] at hvalue
    exact hvalue
  · next hread =>
    rw [hread] at hvalue
    exact hvalue

section Parse

variable {text : String} {value : Json}

/-- The document of a text with a value is the one of the value. -/
theorem scan_root_of_parse (h : parse text = .ok value) : (scan text).root = value.toDocument :=
  (strict_scan text).eq_toDocument (decode_eq_ok_iff.mp h).1

/-- The value of a text nests no deeper than texts may. -/
theorem within_of_parse (h : parse text = .ok value) : value.Within maxDepth := by
  have hroot := (decode_eq_ok_iff.mp h).1
  rwa [scan_root_of_parse h] at hroot

/-- A text with a value is decoded as its value is read. -/
theorem decode_eq_ok_iff_of_parse (h : parse text = .ok value) {α : Type}
    {read : Document → Read α} {a : α} :
    decode read text = .ok a ↔ read value.toDocument = .ok a := by
  rw [decode_eq_ok_iff, scan_root_of_parse h]
  exact and_iff_left (decode_eq_ok_iff.mp h).2

end Parse

end JsonText

end ConnectorProfiles
