import ConnectorProfiles.Proofs.Claims.Decoding
import ConnectorProfiles.Proofs.Extractor.FirstSubject

/-!
# Ids of presented credentials

Credentials are presented as an array under a name, among other values. The extractor finds the
first id of the presented credentials, with one exception: an array of three values that makes up a
credential by itself is that credential and no list, and then nothing is found in it.
-/

namespace ConnectorProfiles

open Json

/-- The items make up one credential, of which the last item is the subject, and that item would by
itself be a credential with an id. -/
inductive HidesId : List Json → Prop
  | subject {id types : Json} {members : List (String × Json)} {whole own : Credential}
      {s : Subject} (hwhole : DenotesCredential (.array [id, types, .object members]) whole)
      (hown : DenotesCredential (.object members) own) (hs : s ∈ own.subjects)
      (hid : s.id ≠ none) : HidesId [id, types, .object members]

/-! ### The parts of a credential in array form -/

private theorem not_denotesCredential_of_denotesOptionalText {value : Json} {text : Option String}
    (h : DenotesOptionalText value text) (c : Credential) : ¬ DenotesCredential value c := by
  intro hc
  cases h with
  | null => cases hc
  | string => cases hc

private theorem not_denotesCredential_of_denotesTypes {value : Json} {types : List String}
    (h : DenotesOneOrMany DenotesText value types) (c : Credential) :
    ¬ DenotesCredential value c := by
  intro hc
  cases h with
  | one h =>
    cases h
    cases hc
  | many h =>
    cases hc with
    | array _ _ hsubjects =>
      -- The last of three texts would have to denote the subjects.
      obtain ⟨_, _, _, h, -⟩ := List.forall₂_cons_left_iff.mp h
      obtain ⟨_, _, _, h, -⟩ := List.forall₂_cons_left_iff.mp h
      obtain ⟨_, _, hlast, -⟩ := List.forall₂_cons_left_iff.mp h
      cases hlast
      generalize c.subjects = subjects at hsubjects
      cases hsubjects with
      | one h => cases h

private theorem not_denotesCredential_of_denotesSubjects {values : List Json}
    {subjects : List Subject} (h : DenotesOneOrMany DenotesSubject (.array values) subjects)
    (c : Credential) :
    ¬ DenotesCredential (.array values) c := by
  intro hc
  cases h with
  | one h => cases h
  | many h =>
    cases hc with
    | array hid =>
      -- The first of the subjects would have to be null or a text.
      obtain ⟨_, _, hfirst, -⟩ := List.forall₂_cons_left_iff.mp h
      generalize c.id = text at hid
      cases hid with
      | null => cases hfirst
      | string => cases hfirst

/-- In a credential in array form, only the last item can be a credential by itself, and then it is
the lone subject. -/
theorem noId_iff_of_denotesCredential {items : List Json} {whole : Credential}
    (h : DenotesCredential (.array items) whole) :
    Extractor.NoId DenotesCredential items ↔ ¬ HidesId items := by
  cases h with
  | @array id types subjects _ hid htypes hsubjects =>
    constructor
    · rintro hnone ⟨-, hown, hs, hsome⟩
      exact hsome (hnone _ (by simp) _ hown _ hs)
    · intro hhides item hitem c hc s hs
      simp only [List.mem_cons, List.not_mem_nil, or_false] at hitem
      rcases hitem with rfl | rfl | rfl
      · exact absurd hc (not_denotesCredential_of_denotesOptionalText hid c)
      · exact absurd hc (not_denotesCredential_of_denotesTypes htypes c)
      · cases item with
        | object members =>
          by_contra hsome
          exact hhides (.subject (.array hid htypes hsubjects) hc hs hsome)
        | array values => exact absurd hc (not_denotesCredential_of_denotesSubjects hsubjects c)
        | null | bool | number | string => cases hc

/-- An array that hides an id is a credential in array form. -/
theorem HidesId.denotesCredential {items : List Json} (h : HidesId items) :
    ∃ whole, DenotesCredential (.array items) whole := by
  cases h with
  | subject hwhole => exact ⟨_, hwhole⟩

/-! ### What the extractor finds under a name -/

namespace Extractor

/-- The claim recognised in a value is a credential exactly when the value denotes it. -/
theorem isCredentialClaim_ofJson_iff {value : Json} {c : Credential} :
    IsCredentialClaim (Claim.ofJson value) c ↔ DenotesCredential value c := by
  rw [IsCredentialClaim, ← denotesClaim_credential_iff, denotesClaim_iff, eq_comm]

/-- Nothing is found under a name whose value is a credential in array form. -/
theorem credentialSubject_of_denotesCredential {members : List (String × Json)} {name : String}
    {items : List Json} (hlast : Last members name (.array items)) {whole : Credential}
    (h : DenotesCredential (.array items) whole) :
    credentialSubject name (Claims.ofMembers members) = none := by
  have hclaim : (Claims.ofMembers members).get? name = some (.credential whole) := by
    rw [Claims.get?_ofMembers_eq_some_iff]
    exact ⟨.array items, hlast, (ofJson_of_denotesCredential h).symm⟩
  rw [credentialSubject, Claims.list?, hclaim]
  rfl

/-- Under a name whose value is a list, the first id of its credentials is found. -/
theorem credentialSubject_of_list {members : List (String × Json)} {name : String}
    {items : List Json} (hlast : Last members name (.array items))
    (h : ∀ c, ¬ DenotesCredential (.array items) c) :
    IsFirstId DenotesCredential items (credentialSubject name (Claims.ofMembers members)) := by
  have hclaim : (Claims.ofMembers members).get? name = some (.list (items.map Claim.ofJson)) := by
    rw [Claims.get?_ofMembers_eq_some_iff]
    exact ⟨.array items, hlast, (ofJson_array_of_not_credential h).symm⟩
  rw [credentialSubject, Claims.list?, hclaim]
  exact (isFirstId_map_iff fun _ _ ↦ isCredentialClaim_ofJson_iff).mp
    (isFirstId_iff.mpr rfl)

/-- Claims whose only value under a name is an array are decoded, and the extractor over that name
finds the first id of the credentials in the array unless the array hides an id; from an array that
does, it finds nothing. -/
theorem credentialSubject_isFirstId_iff {text name : String} {members : List (String × Json)}
    {items : List Json} (htext : JsonText.parse text = .ok (.object members))
    (hname : Once members name (.array items)) :
    ∃ claims, Claims.parse text = .ok claims ∧
      (IsFirstId DenotesCredential items (credentialSubject name claims) ↔ ¬ HidesId items) ∧
      (HidesId items → credentialSubject name claims = none) := by
  refine ⟨Claims.ofMembers members, Claims.parse_eq_ok_iff.mpr ⟨members, htext, rfl⟩, ?_⟩
  by_cases hwhole : ∃ whole, DenotesCredential (.array items) whole
  · obtain ⟨whole, hwhole⟩ := hwhole
    have hnone := credentialSubject_of_denotesCredential hname.last hwhole
    rw [hnone]
    exact ⟨noId_iff_of_denotesCredential hwhole, fun _ ↦ rfl⟩
  · have hlist := credentialSubject_of_list hname.last (not_exists.mp hwhole)
    have hhides : ¬ HidesId items := fun h ↦ hwhole h.denotesCredential
    exact ⟨iff_of_true hlist hhides, fun h ↦ absurd h hhides⟩

/-- A note and a credential whose second subject has an id. -/
def presentedItems : List Json :=
  [.string "note", .object [("credentialSubject",
    .array [.object [("role", .string "guest")], .object [("id", .string "did:b")]])]]

/-- The note and the credential as claims of the usual name. -/
def presentedText : String :=
  "\x7b\"vc\":[\"note\",\x7b\"credentialSubject\":" ++
    "[\x7b\"role\":\"guest\"\x7d,\x7b\"id\":\"did:b\"\x7d]\x7d]\x7d"

/-- The id of a credential that stands behind a note is found. -/
theorem presented_id_is_found :
    JsonText.parse presentedText = .ok (.object [("vc", .array presentedItems)]) ∧
      ∃ claims, Claims.parse presentedText = .ok claims ∧
        IsFirstId DenotesCredential presentedItems (credentialSubject "vc" claims) := by
  have htext : JsonText.parse presentedText = .ok (.object [("vc", .array presentedItems)]) := by
    decide +kernel
  have hname : Once [("vc", Json.array presentedItems)] "vc" (.array presentedItems) :=
    ⟨[], [], rfl, lacks_nil _, lacks_nil _⟩
  obtain ⟨claims, hclaims, hfound, -⟩ := credentialSubject_isFirstId_iff htext hname
  exact ⟨htext, claims, hclaims, hfound.mpr nofun⟩

/-- Two texts and a credential with an id, which make up one credential. -/
def hidingItems : List Json :=
  [.string "note", .string "text",
    .object [("credentialSubject", .object [("id", .string "did:a")])]]

/-- The two texts and the credential as claims of the usual name. -/
def hidingText : String :=
  "\x7b\"vc\":[\"note\",\"text\",\x7b\"credentialSubject\":\x7b\"id\":\"did:a\"\x7d\x7d]\x7d"

/-- The id of a credential that stands behind two texts is not found. -/
theorem hidden_id_is_not_found :
    JsonText.parse hidingText = .ok (.object [("vc", .array hidingItems)]) ∧
      Once [("vc", Json.array hidingItems)] "vc" (.array hidingItems) ∧
      FirstId DenotesCredential hidingItems "did:a" ∧
      credentialSubject "vc" <$> Claims.parse hidingText = .ok none := by
  have hcredential : DenotesCredential
      (.object [("credentialSubject", .object [("id", .string "did:a")])])
      ⟨none, [], [.withId "did:a"]⟩ := by
    apply credential_ofJson?_eq_some_iff.mp
    decide +kernel
  have hbefore : NoId DenotesCredential [.string "note", .string "text"] := by
    rw [noId_cons_iff, noId_cons_iff]
    exact ⟨fun c hc ↦ (by cases hc), fun c hc ↦ (by cases hc), noId_nil⟩
  refine ⟨by decide +kernel, ⟨[], [], rfl, lacks_nil _, lacks_nil _⟩, ?_, by decide +kernel⟩
  exact ⟨_, _, [], _, [], .withId "did:a", [], rfl, hcredential, rfl, rfl, by simp, hbefore⟩

end Extractor

end ConnectorProfiles
