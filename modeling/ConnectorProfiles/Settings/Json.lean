import ConnectorProfiles.Profile.Json
import ConnectorProfiles.Settings.Basic

/-!
# Settings in documents

Reading of settings from documents of any notation, and their JSON form. Unknown members are
refused, so a misspelt setting is not passed over.
-/

namespace ConnectorProfiles

namespace ParticipantSettings

/-- The id under protocols that have none. -/
def defaultIdField : Field String :=
  ⟨"default_id", Document.text, some Settings.defaultParticipantId⟩

/-- The ids under single protocols. -/
def protocolsField : Field (NameMap String) :=
  ⟨"protocols", Document.mapOf Document.text, some .empty⟩

/-- The fields of the connector's own ids. -/
def shape : RecordShape :=
  ⟨"ParticipantSettings", [defaultIdField.erase, protocolsField.erase], true⟩

/-- Reads the connector's own ids. -/
def read (document : Document) : Read ParticipantSettings := do
  let values ← shape.values document
  return ⟨← defaultIdField.get values, ← protocolsField.get values⟩

/-- The JSON form of the connector's own ids. -/
def toJson (p : ParticipantSettings) : Json :=
  .object [("default_id", .string p.defaultId),
    ("protocols", .object (p.protocols.entries.map fun entry ↦ (entry.1, .string entry.2)))]

end ParticipantSettings

namespace ProfileSettings

/-- The name of a profile. -/
def nameField : Field String := ⟨"name", Document.text, none⟩

/-- The version of a profile. -/
def versionField : Field String := ⟨"version", Document.text, none⟩

/-- The path of a profile. -/
def pathField : Field String := ⟨"path", Document.text, some Settings.defaultProtocolPath⟩

/-- The binding of a profile. -/
def bindingField : Field String := ⟨"binding", Document.text, some Settings.defaultProtocolBinding⟩

/-- The webhook of a profile. -/
def webhookField : Field Url := ⟨"webhook", Url.read, none⟩

/-- The extractor that a profile names. -/
def extractorField : Field (Option String) :=
  ⟨"extractor", Document.optional Document.text, some none⟩

/-- The fields of a profile. -/
def shape : RecordShape :=
  ⟨"ProfileSettings", [nameField.erase, versionField.erase, pathField.erase, bindingField.erase,
    webhookField.erase, extractorField.erase], true⟩

/-- Reads a profile. -/
def read (document : Document) : Read ProfileSettings := do
  let values ← shape.values document
  return ⟨← nameField.get values, ← versionField.get values, ← pathField.get values,
    ← bindingField.get values, ← webhookField.get values, ← extractorField.get values⟩

/-- The JSON form of a profile. -/
def toJson (p : ProfileSettings) : Json :=
  .object [("name", .string p.name), ("version", .string p.version), ("path", .string p.path),
    ("binding", .string p.binding), ("webhook", p.webhook.toJson),
    ("extractor", (p.extractor.map Json.string).getD .null)]

end ProfileSettings

namespace Config

/-- The extractor for protocols that name none. -/
def defaultExtractorField : Field String :=
  ⟨"default_extractor", Document.text, some Settings.defaultExtractor⟩

/-- The connector's own ids. -/
def participantField : Field ParticipantSettings :=
  ⟨"participant", ParticipantSettings.read, some .default⟩

/-- The profiles of the default tier. -/
def defaultProfilesField : Field (List ProfileSettings) :=
  ⟨"default_profiles", Document.listOf ProfileSettings.read, some []⟩

/-- The profiles of the standard tier. -/
def profilesField : Field (List ProfileSettings) :=
  ⟨"profiles", Document.listOf ProfileSettings.read, some []⟩

/-- The fields of a configuration. -/
def shape : RecordShape :=
  ⟨"Config", [defaultExtractorField.erase, participantField.erase, defaultProfilesField.erase,
    profilesField.erase], true⟩

/-- Reads a configuration, which may break rules. -/
def read (document : Document) : Read Config := do
  let values ← shape.values document
  return ⟨← defaultExtractorField.get values, ← participantField.get values,
    ← defaultProfilesField.get values, ← profilesField.get values⟩

/-- The JSON form of a configuration. -/
def toJson (c : Config) : Json :=
  .object [("default_extractor", .string c.defaultExtractor),
    ("participant", c.participant.toJson),
    ("default_profiles", .array (c.defaultProfiles.map ProfileSettings.toJson)),
    ("profiles", .array (c.profiles.map ProfileSettings.toJson))]

end Config

end ConnectorProfiles
