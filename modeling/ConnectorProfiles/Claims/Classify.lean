import ConnectorProfiles.Claims.Basic

/-!
# Recognising claims in JSON

A JSON value is the first that fits of a credential, a list of claims and plain JSON. A credential
is an object with its subjects, or the array of its three parts; a part that may be many may also
stand alone. Keys that a credential knows occur at most once in it; all other keys are passed over.
Every key of a subject but its id is an attribute, and the last value of a repeated one stays.
-/

namespace ConnectorProfiles

/-- The values of the members under a key, in text order. -/
def Json.valuesOf (key : String) (members : List (String × Json)) : List Json :=
  (members.filter (·.1 == key)).map (·.2)

/-- The value under a key that does not repeat; where the key does not occur, the value that
stands for it, if one does. -/
def Json.part? (missing : Option Json) (members : List (String × Json)) (key : String) :
    Option Json :=
  match Json.valuesOf key members with
  | [] => missing
  | [value] => some value
  | _ => none

/-- One value or an array of values. -/
def Json.oneOrMany? {α : Type} (item? : Json → Option α) (value : Json) : Option (List α) :=
  match item? value, value with
  | some item, _ => some [item]
  | none, .array items => items.mapM item?
  | none, _ => none

/-- A text, or null for none. -/
def Json.optionalString? : Json → Option (Option String)
  | .null => some none
  | .string value => some (some value)
  | _ => none

/-- A subject: an object with at most one id. -/
def Subject.ofJson? : Json → Option Subject
  | .object members => do
    let id ← Json.part? (some .null) members "id"
    let attributes := (members.filter (·.1 != "id")).map fun member ↦
      (member.1, member.2.canonical)
    return ⟨← id.optionalString?, NameMap.ofList attributes⟩
  | _ => none

/-- A credential from its three parts. -/
def Credential.ofParts? (id types subjects : Json) : Option Credential := do
  return ⟨← id.optionalString?, ← types.oneOrMany? Json.string?,
    ← subjects.oneOrMany? Subject.ofJson?⟩

/-- A credential: an object, or the array of its three parts. -/
def Credential.ofJson? : Json → Option Credential
  | .object members => do
    let id ← Json.part? (some .null) members "id"
    let types ← Json.part? (some (.array [])) members "type"
    let subjects ← Json.part? none members "credentialSubject"
    Credential.ofParts? id types subjects
  | .array [id, types, subjects] => Credential.ofParts? id types subjects
  | _ => none

namespace Claim

mutual

/-- The claim that a JSON value stands for. -/
def ofJson : Json → Claim
  | .array items =>
    match Credential.ofJson? (.array items) with
    | some found => .credential found
    | none => .list (entriesOfJson items)
  | value =>
    match Credential.ofJson? value with
    | some found => .credential found
    | none => .plain value

/-- The claims that the items of an array stand for. -/
def entriesOfJson : List Json → List Claim
  | [] => []
  | item :: rest => ofJson item :: entriesOfJson rest

end

end Claim

end ConnectorProfiles
