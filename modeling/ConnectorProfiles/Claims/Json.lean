import ConnectorProfiles.Claims.Classify
import ConnectorProfiles.Document.Record
import ConnectorProfiles.Json.Printer
import ConnectorProfiles.Json.Reader

/-!
# Claims as JSON text

Reading of claims, credentials and subjects from documents, and their JSON form. Where the kind of
a value is open, the whole value is read before it is judged; a credential or subject that is read
for itself is judged as it is met. The JSON form leaves out what is absent and writes subjects and
types as arrays.
-/

namespace ConnectorProfiles

/-- Reads one value or an array of values inside a record. -/
def Document.oneOrMany {α : Type} (item? : Json → Option α) (document : Document) :
    Read (List α) := do
  match (← document.toJson (JsonText.maxDepth - 1)).oneOrMany? item? with
  | some items => return items
  | none => throw (.misfit .neitherOneNorMany)

namespace Subject

/-- Reads the members of a subject in text order, given whether its id came before. -/
def readMembers : Option (Option String) → List (String × Document) →
    Read (Option String × List (String × Json))
  | id, [] => return (id.getD none, [])
  | id, (key, value) :: rest => do
    if key = "id" then
      if id.isSome then throw (.misfit (.duplicateField key))
      let found ← value.optional Document.text
      readMembers (some found) rest
    else
      let found ← value.toJson (JsonText.maxDepth - 1)
      let (id, attributes) ← readMembers id rest
      return (id, (key, found.canonical) :: attributes)

/-- Reads a subject, which is always an object. -/
def read : Document → Read Subject
  | .mapping members ending => do
    let (id, attributes) ← readMembers none members
    ending.check
    return ⟨id, NameMap.ofList attributes⟩
  | other => throw (other.mismatch (.record "CredentialSubject"))

/-- The JSON form of a subject. An attribute that is named as the id repeats its key. -/
def toJson (s : Subject) : Json :=
  .object ((s.id.map fun id ↦ ("id", Json.string id)).toList ++ s.attributes.entries)

end Subject

namespace Credential

/-- The id of a credential. -/
def idField : Field (Option String) := ⟨"id", Document.optional Document.text, some none⟩

/-- The types of a credential. -/
def typesField : Field (List String) := ⟨"type", Document.oneOrMany Json.string?, some []⟩

/-- The subjects of a credential. -/
def subjectsField : Field (List Subject) :=
  ⟨"credentialSubject", Document.oneOrMany Subject.ofJson?, none⟩

/-- The fields of a credential. -/
def shape : RecordShape :=
  ⟨"VerifiableCredential", [idField.erase, typesField.erase, subjectsField.erase], false⟩

/-- Reads a credential. -/
def read (document : Document) : Read Credential := do
  let values ← shape.values document
  return ⟨← idField.get values, ← typesField.get values, ← subjectsField.get values⟩

/-- The JSON form of a credential. -/
def toJson (c : Credential) : Json :=
  .object ((c.id.map fun id ↦ ("id", Json.string id)).toList ++
    (if c.types.isEmpty then [] else [("type", .array (c.types.map Json.string))]) ++
    [("credentialSubject", .array (c.subjects.map Subject.toJson))])

end Credential

namespace Claim

/-- Reads a claim. -/
def read (document : Document) : Read Claim :=
  ofJson <$> document.toJson JsonText.maxDepth

mutual

/-- The JSON form of a claim; its kind shows in its shape only. -/
def toJson : Claim → Json
  | .credential value => value.toJson
  | .list entries => .array (entriesToJson entries)
  | .json value => value

/-- The JSON forms of the entries of a list. -/
def entriesToJson : List Claim → List Json
  | [] => []
  | entry :: rest => entry.toJson :: entriesToJson rest

end

end Claim

namespace Claims

/-- Reads claims. -/
def read : Document → Read Claims := fun document ↦
  Claims.mk <$> document.mapOf fun value ↦
    Claim.ofJson <$> value.toJson (JsonText.maxDepth - 1)

/-- The JSON form of claims. -/
def toJson (claims : Claims) : Json :=
  .object (claims.byName.entries.map fun entry ↦ (entry.1, entry.2.toJson))

/-- Reads claims from JSON text. -/
def parse (text : String) : Read Claims := JsonText.decode read text

/-- The JSON text of claims. -/
def render (claims : Claims) : String := claims.toJson.render

end Claims

end ConnectorProfiles
