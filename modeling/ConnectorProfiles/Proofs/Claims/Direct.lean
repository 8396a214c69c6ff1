import ConnectorProfiles.Proofs.Claims.RoundTrip
import ConnectorProfiles.Proofs.Json.Records

/-!
# Credentials read for themselves

A credential may be read for itself or as one kind of claim. The first judges members as it meets
them, the second keeps the whole value and looks for the kind that fits. Both follow the grammar, so
they find the same credential in the same texts.
-/

namespace ConnectorProfiles

variable {α : Type}

namespace Json

/-- One or many items are read from a value that denotes them, if it can be kept as a whole and no
array is an item. -/
theorem oneOrMany_toDocument_eq_ok_iff {item? : Json → Option α} {Item : Json → α → Prop}
    (hitem : ∀ value item, item? value = some item ↔ Item value item)
    (harray : ∀ values, item? (.array values) = none) {value : Json}
    (h : value.Within (JsonText.maxDepth - 1)) {items : List α} :
    value.toDocument.oneOrMany item? = .ok items ↔ DenotesOneOrMany Item value items := by
  rw [← oneOrMany?_eq_some_iff hitem harray, Document.oneOrMany, bind_eq_ok_iff]
  constructor
  · rintro ⟨given, hgiven, hitems⟩
    rw [h] at hgiven
    obtain rfl := Except.ok.inj hgiven
    split at hitems
    · next found hfound => rw [hfound, pure_eq_ok_iff.mp hitems]
    · exact absurd hitems throw_ne_ok
  · intro hitems
    refine ⟨value, h, ?_⟩
    rw [hitems]
    rfl

end Json

namespace Credential

variable {document : Document} {c : Credential}

/-- A credential is read from the values that a document gives to its fields. -/
theorem read_eq_ok_iff : read document = .ok c ↔
    ∃ values, shape.Lists document values ∧ shape.Admits values ∧ idField.Gives values c.id ∧
      typesField.Gives values c.types ∧ subjectsField.Gives values c.subjects := by
  simp only [read, bind_eq_ok_iff, pure_eq_ok_iff]
  refine RecordShape.exists_values_iff (by decide) (fun values h ↦ ?_) fun values h ↦ ?_
  · simp only [shape, List.forall_mem_cons] at h
    obtain ⟨hid, htypes, hsubjects, -⟩ := h
    simp only [Field.get_eq_ok_iff hid, Field.get_eq_ok_iff htypes, Field.get_eq_ok_iff hsubjects]
    constructor
    · rintro ⟨_, hid, _, htypes, _, hsubjects, rfl⟩
      exact ⟨hid, htypes, hsubjects⟩
    · rintro ⟨hid, htypes, hsubjects⟩
      exact ⟨_, hid, _, htypes, _, hsubjects, rfl⟩
  · simp only [shape, List.forall_mem_cons]
    exact ⟨h.1.given, h.2.1.given, h.2.2.given, List.forall_mem_nil _⟩

/-- The fields of a credential are given the parts of a credential. -/
theorem gives_documentsOf_iff {members : List (String × Json)}
    (h : ∀ member ∈ members, member.2.Within (JsonText.maxDepth - 1)) :
    (idField.Gives (Json.documentsOf members) c.id ∧
      typesField.Gives (Json.documentsOf members) c.types ∧
        subjectsField.Gives (Json.documentsOf members) c.subjects) ↔
    Json.DenotesOptionalPart Json.DenotesOptionalText none members "id" c.id ∧
      Json.DenotesOptionalPart (Json.DenotesOneOrMany Json.DenotesText) [] members "type" c.types ∧
        Json.DenotesPart (Json.DenotesOneOrMany Json.DenotesSubject) members "credentialSubject"
          c.subjects := by
  have hid : ∀ member ∈ members, ∀ id, idField.read member.2.toDocument = .ok id ↔
      Json.DenotesOptionalText member.2 id := fun _ _ _ ↦ Json.optional_text_toDocument_eq_ok_iff
  have htypes : ∀ member ∈ members, ∀ types, typesField.read member.2.toDocument = .ok types ↔
      Json.DenotesOneOrMany Json.DenotesText member.2 types := fun member hmember _ ↦
    Json.oneOrMany_toDocument_eq_ok_iff (fun _ _ ↦ Json.string?_eq_some_iff) (fun _ ↦ rfl)
      (h member hmember)
  have hsubjects : ∀ member ∈ members, ∀ subjects,
      subjectsField.read member.2.toDocument = .ok subjects ↔
        Json.DenotesOneOrMany Json.DenotesSubject member.2 subjects := fun member hmember _ ↦
    Json.oneOrMany_toDocument_eq_ok_iff (fun _ _ ↦ Json.subject_ofJson?_eq_some_iff)
      (fun _ ↦ rfl) (h member hmember)
  rw [idField.gives_documentsOf_iff_of_default rfl hid,
    typesField.gives_documentsOf_iff_of_default rfl htypes,
    subjectsField.gives_documentsOf_iff rfl hsubjects]
  rfl

/-- A credential is read from a value that denotes it and nests no deeper than texts may. -/
theorem read_toDocument_eq_ok_iff {value : Json} (h : value.Within JsonText.maxDepth) :
    read value.toDocument = .ok c ↔ value.DenotesCredential c := by
  rw [read_eq_ok_iff]
  cases value with
  | object members =>
    rw [RecordShape.exists_lists_object_iff, gives_documentsOf_iff (Json.Within.member h)]
    constructor
    · rintro ⟨-, id, types, subjects⟩
      exact .object id types subjects
    · rintro ⟨id, types, subjects⟩
      exact ⟨nofun, id, types, subjects⟩
  | array items =>
    have hwithin : ∀ member ∈ shape.names.zip items, member.2.Within (JsonText.maxDepth - 1) :=
      fun member hmember ↦ Json.Within.item h _ (List.of_mem_zip hmember).2
    rw [RecordShape.exists_lists_array_iff, gives_documentsOf_iff hwithin,
      Json.denotesOptionalPart_zip_iff (i := 0) (by decide) rfl,
      Json.denotesOptionalPart_zip_iff (i := 1) (by decide) rfl,
      Json.denotesPart_zip_iff (i := 2) (by decide) rfl]
    -- The subjects are never missing, so the array has all three items.
    constructor
    · rintro ⟨hfit, hid, htypes, hsubjects⟩
      obtain ⟨id, types, subjects, rfl⟩ := List.length_eq_three.mp
        (Nat.le_antisymm hfit hsubjects.lt)
      rw [Json.denotesOptionalItem_iff_of_lt (by simp), Json.denotesItem_iff rfl] at hid htypes
      exact .array hid htypes ((Json.denotesItem_iff rfl).mp hsubjects)
    · rintro (_ | ⟨hid, htypes, hsubjects⟩)
      rw [Json.denotesOptionalItem_iff_of_lt (by simp), Json.denotesItem_iff rfl,
        Json.denotesOptionalItem_iff_of_lt (by simp), Json.denotesItem_iff rfl,
        Json.denotesItem_iff rfl]
      exact ⟨Nat.le_refl 3, hid, htypes, hsubjects⟩
  | null | bool | number | string =>
    exact iff_of_false (RecordShape.not_exists_lists_of_scalar nofun nofun) nofun

end Credential

namespace Claim

variable {text : String} {claim : Claim}

/-- The claim of a text is a credential exactly when the text is decoded as that credential. -/
theorem eq_credential_iff_of_decode (h : JsonText.decode read text = .ok claim) {c : Credential} :
    claim = .credential c ↔ JsonText.decode Credential.read text = .ok c := by
  obtain ⟨value, hvalue, hclaim⟩ := decode_read_eq_ok_iff.mp h
  rw [JsonText.decode_eq_ok_iff_of_parse hvalue,
    Credential.read_toDocument_eq_ok_iff (JsonText.within_of_parse hvalue),
    ← Json.denotesClaim_credential_iff, Json.denotesClaim_iff, Json.denotesClaim_iff.mp hclaim,
    eq_comm]

/-- A claim is either a credential or a list or plain JSON. -/
theorem credential?_eq_none_iff : claim.credential? = none ↔
    (∃ entries, claim = .list entries) ∨ ∃ value, claim = .json value := by
  cases claim <;> simp [credential?]

/-- Reading a credential for itself and reading it as a claim agree. On every text that has a claim,
the claim is a credential exactly when the text is decoded as that credential. So where the text is
decoded as none, the claim is a list or plain JSON and yields no credential, and where it is decoded
as one, the claim is neither. -/
theorem direct_decoding_agrees (h : JsonText.decode read text = .ok claim) :
    (∀ c, claim = .credential c ↔ JsonText.decode Credential.read text = .ok c) ∧
    (∀ fault, JsonText.decode Credential.read text = .error fault →
      ((∃ entries, claim = .list entries) ∨ ∃ value, claim = .json value) ∧
        claim.credential? = none) ∧
    ∀ c, JsonText.decode Credential.read text = .ok c →
      (∀ entries, claim ≠ .list entries) ∧ (∀ value, claim ≠ .json value) ∧
        claim.credential? = some c := by
  have hiff (c : Credential) := eq_credential_iff_of_decode h (c := c)
  refine ⟨hiff, fun fault hfault ↦ ?_, fun c hc ↦ ?_⟩
  · have hnone : claim.credential? = none := by
      cases claim with
      | credential c =>
        have hdirect := (hiff c).mp rfl
        rw [hfault] at hdirect
        cases hdirect
      | list | json => rfl
    exact ⟨credential?_eq_none_iff.mp hnone, hnone⟩
  · rw [(hiff c).mpr hc]
    exact ⟨nofun, nofun, rfl⟩

/-- The membership of did:a. -/
def membership : Credential := ⟨none, ["Membership"], [.withId "did:a"]⟩

/-- The membership as an object, where a key that no credential knows repeats. -/
def repeatedNote : String :=
  "\x7b\"note\":1,\"type\":\"Membership\"," ++
    "\"credentialSubject\":\x7b\"id\":\"did:a\"\x7d,\"note\":[]\x7d"

/-- The parts of the membership in an array with one more item. -/
def surplusItem : String := "[null,\"Membership\",\x7b\"id\":\"did:a\"\x7d,true]"

/-- The membership is found both ways where a note repeats, and neither way where an item is too
many. -/
theorem repeated_note_and_surplus_item :
    (JsonText.decode read repeatedNote = .ok (.credential membership) ∧
      JsonText.decode Credential.read repeatedNote = .ok membership) ∧
    ∃ found, JsonText.decode read surplusItem = .ok found ∧
      JsonText.decode Credential.read surplusItem = .error .malformed ∧
        found.credential? = none := by
  have hnote : JsonText.decode read repeatedNote = .ok (.credential membership) := by
    decide +kernel
  have hitem : JsonText.decode read surplusItem = .ok (.list [.plain .null,
      .plain (.string "Membership"), .plain (.object [("id", .string "did:a")]),
      .plain (.bool true)]) := by
    decide +kernel
  have hdirect : JsonText.decode Credential.read surplusItem = .error .malformed := by
    decide +kernel
  exact ⟨⟨hnote, ((direct_decoding_agrees hnote).1 membership).mp rfl⟩,
    _, hitem, hdirect, ((direct_decoding_agrees hitem).2.1 _ hdirect).2⟩

/-- A text may be decoded as a credential and have no claim: a number that is too large has no
value, but a credential passes over it unread. -/
example :
    JsonText.decode Credential.read "\x7b\"n\":1e999,\"credentialSubject\":[]\x7d" =
      .ok ⟨none, [], []⟩ ∧
    JsonText.decode read "\x7b\"n\":1e999,\"credentialSubject\":[]\x7d" = .error .malformed := by
  decide +kernel

end Claim

end ConnectorProfiles
