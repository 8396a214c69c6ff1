import ConnectorProfiles.Proofs.Json.Whole
import ConnectorProfiles.Proofs.Settings.Schema
import ConnectorProfiles.Settings.Load

/-!
# Decoding of settings

Settings pass over nothing, so a text that is decoded as a configuration is a JSON value, and the
configuration is the one that this value denotes.
-/

namespace ConnectorProfiles

open Document Json

variable {depth : Nat}

/-- An address is a value. -/
theorem Url.readsValues_read : ReadsValues depth Url.read := by
  intro document url _ h
  cases document with
  | string value => exact ⟨.string value, by rw [Document.toJson]; rfl⟩
  | _ => cases h

/-- The connector's own ids are a value. -/
theorem ParticipantSettings.readsValues_read :
    ReadsValues (depth + 2) ParticipantSettings.read := by
  refine ReadsValues.bind (RecordShape.readsValues_values (by decide) rfl ?_)
  simp only [shape, List.forall_mem_cons]
  exact ⟨Field.readsValues_check readsValues_text,
    Field.readsValues_check readsValues_text.mapOf, List.forall_mem_nil _⟩

/-- A profile is a value. -/
theorem ProfileSettings.readsValues_read : ReadsValues (depth + 1) ProfileSettings.read := by
  refine ReadsValues.bind (RecordShape.readsValues_values (by decide) rfl ?_)
  simp only [shape, List.forall_mem_cons]
  have htext (field : Field String) (h : field.read = text) :
      ReadsValues depth field.erase.check :=
    Field.readsValues_check (h ▸ readsValues_text)
  exact ⟨htext _ rfl, htext _ rfl, htext _ rfl, htext _ rfl,
    Field.readsValues_check Url.readsValues_read,
    Field.readsValues_check readsValues_text.optional, List.forall_mem_nil _⟩

namespace Config

/-- A configuration is a value. -/
theorem readsValues_read : ReadsValues (depth + 3) read := by
  refine ReadsValues.bind (RecordShape.readsValues_values (by decide) rfl ?_)
  simp only [shape, List.forall_mem_cons]
  exact ⟨Field.readsValues_check readsValues_text,
    Field.readsValues_check ParticipantSettings.readsValues_read,
    Field.readsValues_check ProfileSettings.readsValues_read.listOf,
    Field.readsValues_check ProfileSettings.readsValues_read.listOf, List.forall_mem_nil _⟩

/-- Decoding accepts exactly the schema, and fills in its defaults. A configuration is read from
the JSON values that denote it and from no other, and decoded from exactly the texts of these. -/
theorem decoding_follows_schema (c : Config) :
    (∀ value : Json, read value.toDocument = .ok c ↔ DenotesConfig value c) ∧
    ∀ text, ofJson text = .ok c ↔
      ∃ value, JsonText.parse text = .ok value ∧ DenotesConfig value c := by
  refine ⟨fun value ↦ read_toDocument_eq_ok_iff, fun text ↦ ?_⟩
  simp only [← read_toDocument_eq_ok_iff]
  constructor
  · intro h
    obtain ⟨value, hvalue⟩ := JsonText.exists_parse_of_decode readsValues_read h
    exact ⟨value, hvalue, (JsonText.decode_eq_ok_iff_of_parse hvalue).mp h⟩
  · rintro ⟨value, hvalue, hread⟩
    exact (JsonText.decode_eq_ok_iff_of_parse hvalue).mpr hread

/-- Every record as an array, each without its last part. -/
example : (ofJson ("[\"by-issuer\",[\"did:web:a\"],[[\"dsp\",\"1.0\",\"/dsp\",\"HTTPS\"," ++
      "\"urn:dsp:provider\"]]]")).map (fun c ↦ (c.participant, c.defaultProfiles.map (·.extractor),
        c.profiles)) = .ok (⟨"did:web:a", .empty⟩, [none], []) := by
  decide +kernel

end Config

end ConnectorProfiles
