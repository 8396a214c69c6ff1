import ConnectorProfiles.Proofs.Claims.Decoding

/-!
# Which claims come back from their JSON form

The JSON form of a claim shows its kind in its shape only, so a claim comes back exactly when its
shape is read as its kind at every depth. This is what `Claim.Canonical` says: no attribute takes
the place of an id, no list looks like a credential in array form, and plain JSON is neither an
array nor a credential.
-/

namespace ConnectorProfiles

/-! ### Claims as they can be built -/

/-- Subjects start with or without an id and get attributes one by one. -/
inductive Subject.Built : Subject → Prop
  | withId (id : String) : Built (.withId id)
  | anonymous : Built .anonymous
  | withAttribute {s : Subject} (h : Built s) (name : String) (value : Json) :
      Built (s.withAttribute name value)

/-- Claims are credentials over built subjects, lists of built claims and plain JSON. -/
inductive Claim.Built : Claim → Prop
  | credential {c : Credential} (h : ∀ s ∈ c.subjects, s.Built) : Built (.credential c)
  | list {entries : List Claim} (h : ∀ entry ∈ entries, Built entry) : Built (.list entries)
  | plain (value : Json) : Built (.plain value)

/-- Induction over a claim that reaches every entry of a list. -/
@[elab_as_elim, induction_eliminator]
theorem Claim.tree_induction {P : Claim → Prop} (credential : ∀ c, P (.credential c))
    (list : ∀ entries, (∀ entry ∈ entries, P entry) → P (.list entries))
    (json : ∀ value, P (.json value)) (claim : Claim) : P claim := by
  refine @Claim.rec P (fun entries ↦ ∀ entry ∈ entries, P entry) credential list json ?_ ?_ claim
  · simp
  · intro entry entries hentry hentries
    exact List.forall_mem_cons.mpr ⟨hentry, hentries⟩

/-- Attributes of built subjects are canonical. -/
theorem Subject.Built.canonical_attribute {s : Subject} (h : s.Built) {key : String} {value : Json}
    (hvalue : s.attributes.get? key = some value) : value.canonical = value := by
  induction h with
  | withId | anonymous => cases hvalue
  | withAttribute _ name given ih =>
    rw [Subject.withAttribute, NameMap.get?_insert] at hvalue
    split at hvalue
    · rw [← Option.some.inj hvalue, Json.canonical_canonical]
    · exact ih hvalue

/-- A subject can be built exactly when its attributes are canonical. -/
theorem Subject.built_iff {s : Subject} :
    s.Built ↔ ∀ key value, s.attributes.get? key = some value → value.canonical = value := by
  constructor
  · exact fun h key value hvalue ↦ h.canonical_attribute hvalue
  · intro h
    have hfilled (entries : List (String × Json))
        (hentries : ∀ entry ∈ entries, entry.2.canonical = entry.2) :
        Subject.Built ⟨s.id, NameMap.ofList entries⟩ := by
      induction entries using List.reverseRecOn with
      | nil =>
        cases s.id with
        | none => exact .anonymous
        | some id => exact .withId id
      | append_singleton entries entry ih =>
        obtain ⟨hentries, hentry⟩ := List.forall_mem_append.mp hentries
        rw [List.forall_mem_singleton] at hentry
        rw [NameMap.ofList_concat, ← hentry]
        exact (ih hentries).withAttribute entry.1 entry.2
    have hs := hfilled s.attributes.entries fun entry hentry ↦
      h entry.1 entry.2 (NameMap.mem_entries_iff.mp hentry)
    rwa [NameMap.ofList_entries] at hs

/-! ### The JSON forms of subjects and credentials -/

namespace Json

/-- The member for an id, if there is one, denotes that id. -/
theorem denotesOptionalPart_id (id : Option String) {members : List (String × Json)}
    (h : Lacks members "id") :
    DenotesOptionalPart DenotesOptionalText none
      ((id.map fun id ↦ ("id", Json.string id)).toList ++ members) "id" id := by
  cases id with
  | none => exact .inl ⟨h, rfl⟩
  | some id => exact .inr ⟨.string id, ⟨[], members, rfl, lacks_nil _, h⟩, .string id⟩

/-- The member for an id has no other key. -/
theorem lacks_id_member {key : String} (hkey : key ≠ "id") (id : Option String) :
    Lacks (id.map fun id ↦ ("id", Json.string id)).toList key := by
  cases id with
  | none => exact lacks_nil key
  | some id => exact lacks_cons_iff.mpr ⟨hkey.symm, lacks_nil key⟩

/-- A subject is what its JSON form denotes unless an attribute has the name of the id. -/
theorem denotesSubject_toJson_iff {s : Subject} (hbuilt : s.Built) :
    DenotesSubject s.toJson s ↔ s.attributes.get? "id" = none := by
  constructor
  · exact DenotesSubject.get?_id
  · intro hid
    refine .object (denotesOptionalPart_id s.id (NameMap.get?_eq_none_iff.mp hid)) ?_
    intro key found
    by_cases hkey : key = "id"
    · subst hkey
      simp [hid]
    · simp only [last_append_iff_of_lacks (lacks_id_member hkey s.id), NameMap.last_entries_iff,
        settled_iff]
      constructor
      · intro hfound
        exact ⟨hkey, found, hfound, (hbuilt.canonical_attribute hfound).symm⟩
      · rintro ⟨-, value, hvalue, rfl⟩
        rwa [hbuilt.canonical_attribute hvalue]

/-- Subjects are what their JSON forms denote as soon as each one is. -/
theorem denotesSubjects_map_iff {subjects : List Subject} :
    DenotesOneOrMany DenotesSubject (.array (subjects.map Subject.toJson)) subjects ↔
      ∀ s ∈ subjects, DenotesSubject s.toJson s := by
  rw [← forall₂_map_self_iff]
  constructor
  · intro h
    cases h with
    | one h => cases h
    | many h => exact h
  · exact .many

/-- The member for the types, which is left out if there are none, denotes them. -/
theorem denotesOptionalPart_type (types : List String) {before after : List (String × Json)}
    (hbefore : Lacks before "type") (hafter : Lacks after "type") :
    DenotesOptionalPart (DenotesOneOrMany DenotesText) [] (before ++
      (if types.isEmpty then [] else [("type", .array (types.map Json.string))]) ++ after)
      "type" types := by
  cases types with
  | nil =>
    have hlacks : Lacks (before ++ [] ++ after) "type" := by
      rw [List.append_nil, lacks_append_iff]
      exact ⟨hbefore, hafter⟩
    exact .inl ⟨hlacks, rfl⟩
  | cons type types =>
    refine .inr ⟨.array ((type :: types).map Json.string), ⟨before, after, ?_, hbefore, hafter⟩, ?_⟩
    · simp
    · exact .many (forall₂_map_self_iff.mpr fun text _ ↦ .string text)

/-- The member for the types has no other key. -/
theorem lacks_type_member {key : String} (hkey : key ≠ "type") (types : List String) :
    Lacks (if types.isEmpty then [] else [("type", Json.array (types.map Json.string))]) key := by
  split
  · exact lacks_nil key
  · exact lacks_cons_iff.mpr ⟨hkey.symm, lacks_nil key⟩

/-- A credential is what its JSON form denotes unless an attribute has the name of an id. -/
theorem denotesCredential_toJson_iff {c : Credential} (hbuilt : ∀ s ∈ c.subjects, s.Built) :
    DenotesCredential c.toJson c ↔ ∀ s ∈ c.subjects, s.attributes.get? "id" = none := by
  have hsubjects : DenotesOneOrMany DenotesSubject (.array (c.subjects.map Subject.toJson))
      c.subjects ↔ ∀ s ∈ c.subjects, s.attributes.get? "id" = none := by
    rw [denotesSubjects_map_iff]
    exact forall₂_congr fun s hs ↦ denotesSubject_toJson_iff (hbuilt s hs)
  rw [← hsubjects]
  have hid {key : String} (hkey : key ≠ "id") := lacks_id_member hkey c.id
  have htypes {key : String} (hkey : key ≠ "type") := lacks_type_member hkey c.types
  have hlast {key : String} (hkey : key ≠ "credentialSubject") : Lacks
      [("credentialSubject", Json.array (c.subjects.map Subject.toJson))] key :=
    lacks_cons_iff.mpr ⟨hkey.symm, lacks_nil key⟩
  constructor
  · intro h
    cases h with
    | object _ _ subjects =>
      obtain ⟨value, honce, hvalue⟩ := subjects
      have hfound := last_concat_iff.mp honce.last
      rw [if_pos rfl] at hfound
      subst hfound
      exact hvalue
  · intro h
    refine .object ?_ ?_ ⟨_, ⟨_, [], rfl, ?_, lacks_nil _⟩, h⟩
    · rw [List.append_assoc]
      exact denotesOptionalPart_id c.id
        (lacks_append_iff.mpr ⟨htypes (by decide), hlast (by decide)⟩)
    · exact denotesOptionalPart_type c.types (hid (by decide)) (hlast (by decide))
    · exact lacks_append_iff.mpr ⟨hid (by decide), htypes (by decide)⟩

end Json

/-! ### Claims -/

namespace Claim

open Json

/-- The entries of a list are written one by one. -/
theorem entriesToJson_eq_map (entries : List Claim) :
    entriesToJson entries = entries.map toJson := by
  induction entries with
  | nil => rfl
  | cons entry rest ih => rw [entriesToJson, ih, List.map_cons]

/-- The shape of a claim shows its kind, at every depth. -/
inductive Canonical : Claim → Prop
  | credential {c : Credential} (h : ∀ s ∈ c.subjects, s.attributes.get? "id" = none) :
      Canonical (.credential c)
  | list {entries : List Claim} (h : ∀ entry ∈ entries, Canonical entry)
      (other : ∀ c, ¬ DenotesCredential (.array (entries.map toJson)) c) :
      Canonical (.list entries)
  | json {value : Json} (scalar : ∀ items, value ≠ .array items)
      (other : ∀ c, ¬ DenotesCredential value c) : Canonical (.json value)

/-- A claim is what its JSON form denotes exactly when it is canonical. -/
theorem denotesClaim_toJson_iff {claim : Claim} (hbuilt : claim.Built) :
    DenotesClaim claim.toJson claim ↔ claim.Canonical := by
  induction claim with
  | credential c =>
    cases hbuilt with
    | credential hbuilt =>
      rw [toJson, denotesClaim_credential_iff, denotesCredential_toJson_iff hbuilt]
      constructor
      · exact .credential
      · rintro ⟨h⟩
        exact h
  | list entries ih =>
    cases hbuilt with
    | list hbuilt =>
      have heach : List.Forall₂ DenotesClaim (entries.map toJson) entries ↔
          ∀ entry ∈ entries, entry.Canonical := by
        rw [forall₂_map_self_iff]
        exact forall₂_congr fun entry hentry ↦ ih entry hentry (hbuilt entry hentry)
      rw [toJson, entriesToJson_eq_map]
      constructor
      · intro h
        cases h with
        | list other each => exact .list (heach.mp each) other
      · intro h
        cases h with
        | list h other => exact .list other (heach.mpr h)
  | json value =>
    rw [toJson]
    constructor
    · intro h
      cases h with
      | plain other scalar _ => exact .json scalar other
    · intro h
      cases hbuilt with
      | plain value =>
        cases h with
        | json scalar other =>
          exact .plain other scalar (settled_iff.mpr (canonical_canonical value).symm)

/-- A claim is decoded from every text that has a value, as what that value denotes. -/
theorem decode_read_eq_ok_iff {text : String} {claim : Claim} :
    JsonText.decode read text = .ok claim ↔
      ∃ value, JsonText.parse text = .ok value ∧ DenotesClaim value claim := by
  simp only [JsonText.parse, JsonText.decode_eq_ok_iff, read, map_eq_ok_iff, denotesClaim_iff]
  constructor
  · rintro ⟨⟨value, hvalue, rfl⟩, htrailing⟩
    exact ⟨value, ⟨hvalue, htrailing⟩, rfl⟩
  · rintro ⟨value, ⟨hvalue, htrailing⟩, rfl⟩
    exact ⟨⟨value, hvalue, rfl⟩, htrailing⟩

/-- A claim that is written as JSON and read back, where the text gives the written value, comes
back as itself exactly when it is canonical. -/
theorem reads_back_iff_canonical {claim : Claim} (hbuilt : claim.Built)
    (htext : JsonText.parse claim.toJson.render = .ok claim.toJson) :
    ∃ again, JsonText.decode read claim.toJson.render = .ok again ∧
      (again = claim ↔ claim.Canonical) := by
  refine ⟨ofJson claim.toJson, ?_, ?_⟩
  · exact decode_read_eq_ok_iff.mpr ⟨claim.toJson, htext, denotesClaim_iff.mpr rfl⟩
  · rw [← denotesClaim_toJson_iff hbuilt, denotesClaim_iff, eq_comm]

/-- A note beside a credential that says who its subject is and which role it has. -/
def guestList : Claim :=
  .list [.plain (.string "note"), .credential ⟨some "urn:a", ["Membership"],
    [(Subject.withId "did:a").withAttribute "role" (.string "guest")]⟩]

private theorem built_guestList : guestList.Built := by
  refine .list ?_
  rw [List.forall_mem_cons, List.forall_mem_singleton]
  refine ⟨.plain (.string "note"), .credential ?_⟩
  rw [List.forall_mem_singleton]
  exact .withAttribute (.withId "did:a") "role" (.string "guest")

/-- The list is no credential in array form, and its credential names no attribute as the id. -/
theorem canonical_guestList : guestList.Canonical := by
  refine .list ?_ fun c hc ↦ by cases hc
  rw [List.forall_mem_cons, List.forall_mem_singleton]
  refine ⟨.json nofun fun c hc ↦ (by cases hc), .credential ?_⟩
  rw [List.forall_mem_singleton]
  decide +kernel

/-- The list of a note and a credential is written and comes back. -/
theorem guest_list_reads_back : guestList.Built ∧
    JsonText.parse guestList.toJson.render = .ok guestList.toJson ∧
    JsonText.decode read guestList.toJson.render = .ok guestList := by
  have htext : JsonText.parse guestList.toJson.render = .ok guestList.toJson := by
    decide +kernel
  obtain ⟨again, hagain, hiff⟩ := reads_back_iff_canonical built_guestList htext
  rw [hiff.mpr canonical_guestList] at hagain
  exact ⟨built_guestList, htext, hagain⟩

end Claim

end ConnectorProfiles
