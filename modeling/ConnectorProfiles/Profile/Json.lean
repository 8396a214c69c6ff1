import ConnectorProfiles.Document.Record
import ConnectorProfiles.Profile.Basic

/-!
# Profiles as JSON

The JSON form of profiles and their parts, and the reading of it. Unknown members are passed over.
-/

namespace ConnectorProfiles

/-- A text that is an absolute address. -/
def Url.read : Document → Read Url
  | .string text =>
    match Url.parse text with
    | .ok url => .ok url
    | .error fault => .error (.misfit (.badAddress fault text))
  | other => .error (other.mismatch .address)

/-- The JSON form of an address is its text. -/
def Url.toJson (u : Url) : Json := .string u.render

namespace ProtocolVersion

/-- The label of a version. -/
def versionField : Field String := ⟨"version", Document.text, none⟩

/-- The path of a version. -/
def pathField : Field String := ⟨"path", Document.text, none⟩

/-- The binding of a version. -/
def bindingField : Field String := ⟨"binding", Document.text, none⟩

/-- The fields of a version. -/
def shape : RecordShape :=
  ⟨"ProtocolVersion", [versionField.erase, pathField.erase, bindingField.erase], false⟩

/-- Reads a version. -/
def read (document : Document) : Read ProtocolVersion := do
  let values ← shape.values document
  return ⟨← versionField.get values, ← pathField.get values, ← bindingField.get values⟩

/-- The JSON form of a version. -/
def toJson (v : ProtocolVersion) : Json :=
  .object [("version", .string v.version), ("path", .string v.path), ("binding", .string v.binding)]

end ProtocolVersion

namespace ProtocolVersions

/-- The advertised versions. -/
def listField : Field (List ProtocolVersion) :=
  ⟨"protocolVersions", Document.listOf ProtocolVersion.read, none⟩

/-- The only field of advertised versions. -/
def shape : RecordShape := ⟨"ProtocolVersions", [listField.erase], false⟩

/-- Reads advertised versions. -/
def read (document : Document) : Read ProtocolVersions := do
  return ⟨← listField.get (← shape.values document)⟩

/-- The JSON form of advertised versions. -/
def toJson (v : ProtocolVersions) : Json :=
  .object [("protocolVersions", .array (v.toList.map ProtocolVersion.toJson))]

end ProtocolVersions

namespace Webhook

/-- The address of a webhook. -/
def urlField : Field Url := ⟨"url", Url.read, none⟩

/-- The only field of a webhook. -/
def shape : RecordShape := ⟨"ProtocolWebhook", [urlField.erase], false⟩

/-- Reads a webhook. -/
def read (document : Document) : Read Webhook := do
  return ⟨← urlField.get (← shape.values document)⟩

/-- The JSON form of a webhook. -/
def toJson (w : Webhook) : Json := .object [("url", w.url.toJson)]

end Webhook

namespace Profile

/-- The name of a profile. -/
def nameField : Field String := ⟨"name", Document.text, none⟩

/-- The version of a profile. -/
def versionField : Field ProtocolVersion := ⟨"protocolVersion", ProtocolVersion.read, none⟩

/-- The webhook of a profile. -/
def webhookField : Field Webhook := ⟨"webhook", Webhook.read, none⟩

/-- The fields of a profile. -/
def shape : RecordShape :=
  ⟨"DataspaceProfileContext", [nameField.erase, versionField.erase, webhookField.erase], false⟩

/-- Reads a profile. -/
def read (document : Document) : Read Profile := do
  let values ← shape.values document
  return ⟨← nameField.get values, ← versionField.get values, ← webhookField.get values⟩

/-- The JSON form of a profile. -/
def toJson (p : Profile) : Json :=
  .object [("name", .string p.name), ("protocolVersion", p.protocolVersion.toJson),
    ("webhook", p.webhook.toJson)]

end Profile

end ConnectorProfiles
