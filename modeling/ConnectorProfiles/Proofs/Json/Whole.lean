import ConnectorProfiles.Proofs.Document.Records
import ConnectorProfiles.Proofs.Json.Documents

/-!
# Reading that looks at everything

A reader that passes over nothing reads only documents that are values. The readers of texts are
such, and lists, maps and records that refuse further members are as soon as their parts are.
-/

namespace ConnectorProfiles

variable {α β : Type} {depth : Nat}

namespace Document

/-- The document is a JSON value with at most `depth` nested arrays and objects. -/
def HasValue (depth : Nat) (document : Document) : Prop :=
  ∃ value, document.toJson depth = .ok value

/-- A closed sequence of values is a value. -/
theorem HasValue.sequence {items : List Document} {ending : Ending}
    (h : ∀ item ∈ items, item.HasValue depth) (hclosed : ending.check = .ok ()) :
    (Document.sequence items ending).HasValue (depth + 1) := by
  obtain ⟨values, hvalues⟩ := exists_forall₂_iff.mpr h
  refine ⟨.array values, ?_⟩
  rw [toJson, itemsToJson_eq_ok_iff.mpr hvalues, hclosed]
  rfl

/-- A closed mapping to values is a value. -/
theorem HasValue.mapping {members : List (String × Document)} {ending : Ending}
    (h : ∀ member ∈ members, member.2.HasValue depth) (hclosed : ending.check = .ok ()) :
    (Document.mapping members ending).HasValue (depth + 1) := by
  have heach : ∀ member ∈ members, ∃ value : String × Json,
      member.1 = value.1 ∧ member.2.toJson depth = .ok value.2 := by
    intro member hmember
    obtain ⟨value, hvalue⟩ := h member hmember
    exact ⟨(member.1, value), rfl, hvalue⟩
  obtain ⟨values, hvalues⟩ := exists_forall₂_iff.mpr heach
  refine ⟨.object values, ?_⟩
  rw [toJson, membersToJson_eq_ok_iff.mpr hvalues, hclosed]
  rfl

/-- The strict documents that are read are values. -/
def ReadsValues (depth : Nat) (read : Document → Read α) : Prop :=
  ∀ document a, document.Strict → read document = .ok a → document.HasValue depth

/-- A text is a value. -/
theorem readsValues_text : ReadsValues depth text := by
  intro document a _ h
  cases document with
  | string value => exact ⟨.string value, by rw [toJson]; rfl⟩
  | _ => cases h

/-- Null is a value. -/
theorem ReadsValues.optional {read : Document → Read α} (h : ReadsValues depth read) :
    ReadsValues depth (optional read) := by
  intro document a hstrict hread
  cases document with
  | null => exact ⟨.null, by rw [toJson]; rfl⟩
  | _ =>
    obtain ⟨part, hpart, -⟩ := map_eq_ok_iff.mp hread
    exact h _ part hstrict hpart

/-- A list of values is a value. -/
theorem ReadsValues.listOf {read : Document → Read α} (h : ReadsValues depth read) :
    ReadsValues (depth + 1) (listOf read) := by
  intro document a hstrict hread
  cases hstrict with
  | @sequence items ending each closed =>
    simp only [Document.listOf, bind_eq_ok_iff, mapM_eq_ok_iff] at hread
    obtain ⟨values, hvalues, ⟨⟩, hclosed, -⟩ := hread
    refine .sequence (fun item hitem ↦ ?_) hclosed
    obtain ⟨value, hvalue⟩ := exists_forall₂_iff.mp ⟨values, hvalues⟩ item hitem
    exact h item value (each item hitem) hvalue
  | _ => cases hread

/-- A map to values is a value. -/
theorem ReadsValues.mapOf {read : Document → Read α} (h : ReadsValues depth read) :
    ReadsValues (depth + 1) (mapOf read) := by
  intro document a hstrict hread
  cases hstrict with
  | @mapping members ending each closed =>
    simp only [Document.mapOf, bind_eq_ok_iff, mapM_eq_ok_iff] at hread
    obtain ⟨values, hvalues, ⟨⟩, hclosed, -⟩ := hread
    refine .mapping (fun member hmember ↦ ?_) hclosed
    obtain ⟨_, value, hvalue, -⟩ := exists_forall₂_iff.mp ⟨values, hvalues⟩ member hmember
    exact h member.2 value (each member hmember) hvalue
  | _ => cases hread

/-- What is made of a value is made of a value. -/
theorem ReadsValues.bind {read : Document → Read α} {next : Document → α → Read β}
    (h : ReadsValues depth read) :
    ReadsValues depth fun document ↦ read document >>= next document := by
  intro document b hstrict hread
  obtain ⟨a, ha, -⟩ := bind_eq_ok_iff.mp hread
  exact h document a hstrict ha

end Document

open Document

/-- A value that passes is a value that is read. -/
theorem Field.readsValues_check {field : Field α} (h : ReadsValues depth field.read) :
    ReadsValues depth field.erase.check := by
  intro document _ hstrict hcheck
  obtain ⟨part, hpart⟩ := Field.erase_check_eq_ok_iff.mp hcheck
  exact h document part hstrict hpart

namespace RecordShape

variable {shape : RecordShape} {values : List (String × Document)}

/-- The value under the name of a field that passes is the one that passes. -/
private theorem check_of_mem {field : FieldCheck} {document : Document} (h : field.Passes values)
    (hmem : (field.name, document) ∈ values) : field.check document = .ok () := by
  rcases h with hlacks | ⟨value, honce, hcheck⟩
  · exact absurd rfl (hlacks _ hmem)
  · rwa [honce.eq_of_mem hmem]

/-- A record that refuses further members is a value if its fields are. -/
theorem readsValues_values (hnames : shape.names.Nodup) (hrefuses : shape.refusesUnknown = true)
    (hfields : ∀ field ∈ shape.fields, ReadsValues depth field.check) :
    ReadsValues (depth + 1) shape.values := by
  intro document values hstrict h
  obtain ⟨hlists, hadmits, hpasses⟩ := of_values_eq_ok hnames h
  have heach : ∀ member ∈ values, member.2.Strict → member.2.HasValue depth := by
    rintro ⟨name, value⟩ hmember hvalue
    have hknown : name ∈ shape.names := by
      by_contra hunknown
      have hadmitted := (hadmits _ hmember hunknown).1
      rw [hrefuses] at hadmitted
      cases hadmitted
    obtain ⟨field, hfield, rfl⟩ := List.mem_map.mp hknown
    exact hfields field hfield value () hvalue (check_of_mem (hpasses field hfield) hmember)
  cases hlists with
  | mapping hclosed =>
    cases hstrict with
    | mapping each _ => exact .mapping (fun member hmember ↦
        heach member hmember (each member hmember)) hclosed
  | @sequence items _ hclosed hfit =>
    cases hstrict with
    | sequence each closed =>
      have hfit : items.length ≤ shape.names.length := by
        rw [names, List.length_map]
        exact hfit.resolve_right closed
      refine .sequence (fun item hitem ↦ ?_) hclosed
      rw [← List.map_snd_zip hfit] at hitem
      obtain ⟨member, hmember, rfl⟩ := List.mem_map.mp hitem
      exact heach member hmember (each _ (List.of_mem_zip hmember).2)

end RecordShape

/-- A text that is decoded by looking at everything has a value. -/
theorem JsonText.exists_parse_of_decode {read : Document → Read α} (h : ReadsValues maxDepth read)
    {text : String} {a : α} (hdecode : decode read text = .ok a) :
    ∃ value, parse text = .ok value := by
  obtain ⟨hread, htrailing⟩ := decode_eq_ok_iff.mp hdecode
  obtain ⟨value, hvalue⟩ := h _ a (strict_scan text) hread
  exact ⟨value, decode_eq_ok_iff.mpr ⟨hvalue, htrailing⟩⟩

end ConnectorProfiles
