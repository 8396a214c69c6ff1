import ConnectorProfiles.Extractor.Basic
import ConnectorProfiles.Proofs.Claims.WrittenBack

/-!
# Claims and ids after claims are written and read again

Claims that were decoded come back from their JSON text name by name: under a name stands the same
claim again exactly when that claim is canonical, and then the extractor finds the same id. Claims
of an orderly text come back as they are.
-/

namespace ConnectorProfiles

namespace Claims

open Extractor (credentialSubject)

/-- The claims that are decoded from the JSON form of claims. -/
def reread (claims : Claims) : Claims :=
  ofMembers (claims.byName.entries.map fun entry ↦ (entry.1, entry.2.toJson))

/-- Under each name stands the claim that the JSON form of the claim denotes. -/
theorem get?_reread (claims : Claims) (name : String) :
    claims.reread.get? name = (claims.get? name).map fun claim ↦ Claim.ofJson claim.toJson := by
  ext found
  rw [reread, get?_ofMembers_eq_some_iff, Option.map_eq_some_iff, get?]
  simp only [last_map_iff, NameMap.last_entries_iff]
  constructor
  · rintro ⟨_, ⟨claim, hclaim, rfl⟩, rfl⟩
    exact ⟨claim, hclaim, rfl⟩
  · rintro ⟨claim, hclaim, rfl⟩
    exact ⟨_, ⟨claim, hclaim, rfl⟩, rfl⟩

/-- A name keeps its claim exactly when that claim is canonical. -/
theorem get?_reread_eq_iff {claims : Claims} {name : String}
    (hbuilt : ∀ claim, claims.get? name = some claim → claim.Built) :
    claims.reread.get? name = claims.get? name ↔
      ∀ claim, claims.get? name = some claim → claim.Canonical := by
  rw [get?_reread]
  cases hclaim : claims.get? name with
  | none => simp
  | some claim =>
    rw [Option.map_some, Option.some.injEq, eq_comm, ← Json.denotesClaim_iff,
      Claim.denotesClaim_toJson_iff (hbuilt claim hclaim)]
    simp

/-- Claims that are decoded can be built. -/
theorem built_of_parse {text : String} {claims : Claims} (h : parse text = .ok claims)
    {name : String} {claim : Claim} (hclaim : claims.get? name = some claim) : claim.Built := by
  obtain ⟨members, -, rfl⟩ := parse_eq_ok_iff.mp h
  obtain ⟨value, -, rfl⟩ := get?_ofMembers_eq_some_iff.mp hclaim
  exact Claim.built_ofJson value

/-- Claims that are written, where the text gives the written value, are decoded from it again. -/
theorem parse_render {claims : Claims}
    (hread : JsonText.parse claims.render = .ok claims.toJson) :
    parse claims.render = .ok claims.reread :=
  parse_eq_ok_iff.mpr ⟨_, hread, rfl⟩

/-- What the extractor finds depends on the claim of its name only. -/
theorem credentialSubject_congr {a b : Claims} {name : String} (h : a.get? name = b.get? name) :
    credentialSubject name a = credentialSubject name b := by
  rw [credentialSubject, credentialSubject, list?, list?, h]

/-- Claims that are decoded from a text, written and, where that text gives the written value,
decoded again: a name keeps its claim exactly when the claim is canonical, all claims come back
exactly when all are, and the extractor finds the same id under every name that keeps its claim.
Claims come back from every text with orderly values. -/
theorem reread_eq_iff_canonical {text : String} {claims : Claims}
    (hparse : parse text = .ok claims)
    (hread : JsonText.parse claims.render = .ok claims.toJson) :
    ∃ again, parse claims.render = .ok again ∧
      (∀ name, again.get? name = claims.get? name ↔
        ∀ claim, claims.get? name = some claim → claim.Canonical) ∧
      (again = claims ↔ ∀ name claim, claims.get? name = some claim → claim.Canonical) ∧
      (∀ name, (∀ claim, claims.get? name = some claim → claim.Canonical) →
        credentialSubject name again = credentialSubject name claims) ∧
      (∀ members, JsonText.parse text = .ok (.object members) →
        (∀ name value, Last members name value → value.Orderly) → again = claims) := by
  have hname (name : String) : claims.reread.get? name = claims.get? name ↔
      ∀ claim, claims.get? name = some claim → claim.Canonical :=
    get?_reread_eq_iff fun _ hclaim ↦ built_of_parse hparse hclaim
  have hall : claims.reread = claims ↔
      ∀ name claim, claims.get? name = some claim → claim.Canonical := by
    rw [← forall_congr' hname]
    exact ⟨fun h name ↦ by rw [h], ext_get?⟩
  refine ⟨claims.reread, parse_render hread, hname, hall, ?_, ?_⟩
  · intro name h
    exact credentialSubject_congr ((hname name).mpr h)
  · intro members hmembers h
    rw [hall]
    intro name claim hclaim
    obtain ⟨given, hgiven, rfl⟩ := parse_eq_ok_iff.mp hparse
    rw [hmembers, Except.ok.injEq, Json.object.injEq] at hgiven
    subst hgiven
    obtain ⟨value, hlast, rfl⟩ := get?_ofMembers_eq_some_iff.mp hclaim
    exact Claim.canonical_ofJson (h name value hlast)

/-- The usual claim with a list of a note and a credential. -/
def guestClaims : Claims := empty.insert "vc" Claim.guestList

/-- The list of a note and a credential in other words, with a lone type and a lone subject. -/
def guestText : String :=
  "\x7b\"vc\":[\"note\",\x7b\"type\":\"Membership\",\"id\":\"urn:a\",\"credentialSubject\":" ++
    "\x7b\"role\":\"guest\",\"id\":\"did:a\"\x7d\x7d]\x7d"

/-- The claims of a text with lone parts come back from their own text. -/
theorem guest_claims_come_back : parse guestText = .ok guestClaims ∧
    JsonText.parse guestClaims.render = .ok guestClaims.toJson ∧
    parse guestClaims.render = .ok guestClaims := by
  have hparse : parse guestText = .ok guestClaims := by decide +kernel
  have hread : JsonText.parse guestClaims.render = .ok guestClaims.toJson := by decide +kernel
  have hcanonical (name : String) (claim : Claim) (hclaim : guestClaims.get? name = some claim) :
      claim.Canonical := by
    rw [get?, guestClaims, insert, NameMap.get?_insert] at hclaim
    split at hclaim
    · obtain rfl := Option.some.inj hclaim
      exact Claim.canonical_guestList
    · cases hclaim
  obtain ⟨again, hagain, -, hall, -⟩ := reread_eq_iff_canonical hparse hread
  rw [hall.mpr hcanonical] at hagain
  exact ⟨hparse, hread, hagain⟩

/-- The claims of a text are written as a text that gives the written value, but from it come back
as others, in which another id is found. -/
def ChangesWhenReread (text : String) : Prop :=
  ∃ claims again, parse text = .ok claims ∧
    JsonText.parse claims.render = .ok claims.toJson ∧ parse claims.render = .ok again ∧
    again ≠ claims ∧ credentialSubject "vc" again ≠ credentialSubject "vc" claims

/-- A list of one object, which would be a credential if it did not repeat a key. -/
def repeatingText : String :=
  "\x7b\"vc\":[\x7b\"credentialSubject\":\x7b\"id\":\"did:a\"\x7d," ++
    "\"credentialSubject\":\x7b\"id\":\"did:a\"\x7d\x7d]\x7d"

/-- A list of null, a text and a credential in array form. -/
def nestingText : String :=
  "\x7b\"vc\":[null,\"text\",[null,\"Membership\",\x7b\"id\":\"did:a\"\x7d]]\x7d"

/-- A repeated key hides a credential until the claims are written, and a credential in array form
becomes a subject when it is written as an object. -/
theorem repeated_key_and_nested_array_change :
    ChangesWhenReread repeatingText ∧ ChangesWhenReread nestingText := by
  constructor
  · let claims := empty.insert "vc"
      (.list [.plain (.object [("credentialSubject", .object [("id", .string "did:a")])])])
    have hread : JsonText.parse claims.render = .ok claims.toJson := by decide +kernel
    exact ⟨claims, claims.reread, by decide +kernel, hread, parse_render hread, by decide +kernel,
      by decide +kernel⟩
  · let claims := empty.insert "vc" (.list [.plain .null, .plain (.string "text"),
      .credential ⟨none, ["Membership"], [.withId "did:a"]⟩])
    have hread : JsonText.parse claims.render = .ok claims.toJson := by decide +kernel
    exact ⟨claims, claims.reread, by decide +kernel, hread, parse_render hread, by decide +kernel,
      by decide +kernel⟩

end Claims

end ConnectorProfiles
