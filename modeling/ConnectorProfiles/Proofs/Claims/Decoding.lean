import ConnectorProfiles.Claims.Json
import ConnectorProfiles.Proofs.Claims.Grammar
import ConnectorProfiles.Proofs.Document.Read

/-!
# Decoding claims

A JSON text decodes as claims exactly when its value is an object. Under each name stands the claim
that the last value of the name denotes, and a lone type or subject of a credential is as good as
the array of it.
-/

namespace ConnectorProfiles

/-- The claim under a name: the one that the last value of the name denotes, if there is any. -/
inductive Json.DenotesClaimUnder (members : List (String × Json)) (name : String) :
    Option Claim → Prop
  | absent (h : Lacks members name) : DenotesClaimUnder members name none
  | present {value : Json} {claim : Claim} (last : Last members name value)
      (h : DenotesClaim value claim) : DenotesClaimUnder members name (some claim)

/-- Two values differ in one place only, where a lone type or subject of the one stands in an array
of its own in the other. -/
inductive Json.Boxes : Json → Json → Prop
  | typeMember (before after : List (String × Json)) (type : String) :
      Boxes (.object (before ++ ("type", .string type) :: after))
        (.object (before ++ ("type", .array [.string type]) :: after))
  | subjectMember (before after subject : List (String × Json)) :
      Boxes (.object (before ++ ("credentialSubject", .object subject) :: after))
        (.object (before ++ ("credentialSubject", .array [.object subject]) :: after))
  | typeItem (id subjects : Json) (type : String) :
      Boxes (.array [id, .string type, subjects]) (.array [id, .array [.string type], subjects])
  | subjectItem (id types : Json) (subject : List (String × Json)) :
      Boxes (.array [id, types, .object subject]) (.array [id, types, .array [.object subject]])

/-! ### Lone types and subjects -/

namespace Json

private theorem valuesOf_append_cons (before after : List (String × Json)) (name key : String)
    (value : Json) : valuesOf key (before ++ (name, value) :: after) =
      valuesOf key before ++ (if name = key then [value] else []) ++ valuesOf key after := by
  simp only [valuesOf, List.filter_append, List.filter_cons, beq_iff_eq]
  split
  · simp
  · simp

/-- Changing the value of one member changes no part under another key. -/
theorem part?_replace_of_ne {before after : List (String × Json)} {name key : String}
    (h : name ≠ key) (missing : Option Json) (value other : Json) :
    part? missing (before ++ (name, value) :: after) key =
      part? missing (before ++ (name, other) :: after) key := by
  simp only [part?, valuesOf_append_cons, if_neg h]

/-- The part under the key of a member is the value of that member, unless the key repeats. -/
theorem part?_of_member (before after : List (String × Json)) (name : String)
    (missing : Option Json) (value : Json) :
    part? missing (before ++ (name, value) :: after) name =
      if valuesOf name before = [] ∧ valuesOf name after = [] then some value else none := by
  rw [part?, valuesOf_append_cons, if_pos rfl]
  cases valuesOf name before with
  | nil =>
    cases valuesOf name after with
    | nil => rfl
    | cons _ _ => rfl
  | cons _ rest =>
    cases rest with
    | nil => rfl
    | cons _ _ => rfl

private theorem oneOrMany?_singleton {α : Type} {item? : Json → Option α}
    (harray : ∀ values, item? (.array values) = none) {value : Json}
    (hvalue : ∀ values, value ≠ .array values) :
    (Json.array [value]).oneOrMany? item? = value.oneOrMany? item? := by
  unfold oneOrMany?
  rw [harray]
  cases hitem : item? value with
  | none =>
    cases value with
    | array values => exact absurd rfl (hvalue values)
    | _ => simp [hitem]
  | some item => simp [hitem]

private theorem ofParts?_box_type (id subjects : Json) (type : String) :
    Credential.ofParts? id (.array [.string type]) subjects =
      Credential.ofParts? id (.string type) subjects := by
  have hlone : ∀ values, Json.string type ≠ .array values := nofun
  rw [Credential.ofParts?, Credential.ofParts?, oneOrMany?_singleton (fun _ ↦ rfl) hlone]

private theorem ofParts?_box_subject (id types : Json) (subject : List (String × Json)) :
    Credential.ofParts? id types (.array [.object subject]) =
      Credential.ofParts? id types (.object subject) := by
  have hlone : ∀ values, Json.object subject ≠ .array values := nofun
  rw [Credential.ofParts?, Credential.ofParts?, oneOrMany?_singleton (fun _ ↦ rfl) hlone]

/-- Boxing a lone type or subject changes no credential. -/
theorem Boxes.ofJson?_eq {value boxed : Json} (h : Boxes value boxed) :
    Credential.ofJson? value = Credential.ofJson? boxed := by
  cases h with
  | typeMember before after type =>
    simp only [Credential.ofJson?, part?_of_member]
    rw [part?_replace_of_ne (by decide) _ (.string type) (.array [.string type]),
      part?_replace_of_ne (by decide) _ (.string type) (.array [.string type])]
    split
    · simp [ofParts?_box_type]
    · rfl
  | subjectMember before after subject =>
    simp only [Credential.ofJson?, part?_of_member]
    rw [part?_replace_of_ne (by decide) _ (.object subject) (.array [.object subject]),
      part?_replace_of_ne (by decide) _ (.object subject) (.array [.object subject])]
    split
    · simp [ofParts?_box_subject]
    · rfl
  | typeItem id subjects type => exact (ofParts?_box_type id subjects type).symm
  | subjectItem id types subject => exact (ofParts?_box_subject id types subject).symm

/-- The claim of a credential is denoted by what denotes the credential. -/
theorem denotesClaim_credential_iff {value : Json} {c : Credential} :
    DenotesClaim value (.credential c) ↔ DenotesCredential value c := by
  constructor
  · intro h
    cases h with
    | credential h => exact h
  · exact .credential

end Json

/-! ### Claims of a text -/

namespace Claims

/-- The claims that members denote under their names. -/
def ofMembers (members : List (String × Json)) : Claims :=
  ⟨NameMap.ofList (members.map fun member ↦ (member.1, Claim.ofJson member.2))⟩

/-- Claims are equal when they are equal under every name. -/
@[ext] theorem ext_get? {a b : Claims} (h : ∀ name, a.get? name = b.get? name) : a = b := by
  cases a
  cases b
  congr 1
  exact NameMap.ext_get? h

/-- There is no claim under the names that the members lack. -/
theorem get?_ofMembers_eq_none_iff {members : List (String × Json)} {name : String} :
    (ofMembers members).get? name = none ↔ Lacks members name := by
  rw [get?, ofMembers, NameMap.get?_ofList_eq_none_iff, lacks_map_iff]

/-- The claim under a name is recognised in the last value of the name. -/
theorem get?_ofMembers_eq_some_iff {members : List (String × Json)} {name : String}
    {claim : Claim} : (ofMembers members).get? name = some claim ↔
      ∃ value, Last members name value ∧ claim = Claim.ofJson value := by
  rw [get?, ofMembers, NameMap.get?_ofList_eq_some_iff, last_map_iff]

/-- Members denote exactly one claim, or none, under each name. -/
theorem denotesClaimUnder_iff {members : List (String × Json)} {name : String}
    {found : Option Claim} :
    Json.DenotesClaimUnder members name found ↔ (ofMembers members).get? name = found := by
  constructor
  · intro h
    cases h with
    | absent h => exact get?_ofMembers_eq_none_iff.mpr h
    | present last h =>
      exact get?_ofMembers_eq_some_iff.mpr ⟨_, last, Json.denotesClaim_iff.mp h⟩
  · rintro rfl
    cases hfound : (ofMembers members).get? name with
    | none => exact .absent (get?_ofMembers_eq_none_iff.mp hfound)
    | some claim =>
      obtain ⟨value, hlast, hclaim⟩ := get?_ofMembers_eq_some_iff.mp hfound
      exact .present hlast (Json.denotesClaim_iff.mpr hclaim)

/-- Claims are the ones that members denote when they agree under every name. -/
theorem eq_ofMembers_iff {members : List (String × Json)} {claims : Claims} :
    claims = ofMembers members ↔
      ∀ name, Json.DenotesClaimUnder members name (claims.get? name) := by
  simp only [denotesClaimUnder_iff]
  constructor
  · rintro rfl name
    rfl
  · intro h
    ext1 name
    exact (h name).symm

/-- Claims are decoded from objects only, and then from nothing but the value of the text. -/
theorem parse_eq_ok_iff {text : String} {claims : Claims} :
    parse text = .ok claims ↔
      ∃ members, JsonText.parse text = .ok (.object members) ∧ claims = ofMembers members := by
  rw [parse, JsonText.parse, JsonText.decode_eq_ok_iff, read, map_eq_ok_iff]
  simp only [JsonText.decode_eq_ok_iff]
  constructor
  · rintro ⟨⟨m, hread, rfl⟩, htrailing⟩
    obtain ⟨members, hmembers, rfl⟩ := Document.mapOf_toJson_eq_ok_iff.mp hread
    exact ⟨members, ⟨hmembers, htrailing⟩, rfl⟩
  · rintro ⟨members, ⟨hmembers, htrailing⟩, rfl⟩
    exact ⟨⟨_, Document.mapOf_toJson_eq_ok_iff.mpr ⟨members, hmembers, rfl⟩, rfl⟩, htrailing⟩

/-- Decoding follows the grammar. Claims are decoded from exactly the texts whose value is an
object, and hold under each name what the last value of the name denotes; every value denotes
exactly one claim; and boxing a lone type or subject changes no credential. -/
theorem parse_follows_grammar (text : String) :
    ((∃ claims, parse text = .ok claims) ↔
      ∃ members, JsonText.parse text = .ok (.object members)) ∧
    (∀ claims, parse text = .ok claims ↔ ∃ members,
      JsonText.parse text = .ok (.object members) ∧
        ∀ name, Json.DenotesClaimUnder members name (claims.get? name)) ∧
    (∀ value, ∃! claim, Json.DenotesClaim value claim) ∧
    (∀ value boxed c, Json.Boxes value boxed →
      (Json.DenotesClaim value (.credential c) ↔ Json.DenotesClaim boxed (.credential c))) := by
  refine ⟨?_, fun claims ↦ ?_, fun value ↦ ?_, fun value boxed c hboxes ↦ ?_⟩
  · constructor
    · rintro ⟨claims, h⟩
      obtain ⟨members, hmembers, -⟩ := parse_eq_ok_iff.mp h
      exact ⟨members, hmembers⟩
    · rintro ⟨members, hmembers⟩
      exact ⟨ofMembers members, parse_eq_ok_iff.mpr ⟨members, hmembers, rfl⟩⟩
  · simp only [parse_eq_ok_iff, eq_ofMembers_iff]
  · exact ⟨Claim.ofJson value, Json.denotesClaim_iff.mpr rfl, fun _ h ↦ Json.denotesClaim_iff.mp h⟩
  · rw [Json.denotesClaim_credential_iff, Json.denotesClaim_credential_iff,
      ← Json.credential_ofJson?_eq_some_iff, ← Json.credential_ofJson?_eq_some_iff,
      hboxes.ofJson?_eq]

end Claims

end ConnectorProfiles
