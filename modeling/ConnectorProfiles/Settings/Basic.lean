import ConnectorProfiles.NameMap
import ConnectorProfiles.Url.Basic

/-!
# Settings

What a connector is configured with: the extractor for protocols that name none, its own ids, and
the profiles of both tiers. Every part has a default except name, version and webhook of a profile.
-/

namespace ConnectorProfiles

/-- The connector's own ids. -/
structure ParticipantSettings where
  defaultId : String
  protocols : NameMap String
  deriving DecidableEq

/-- One profile. -/
structure ProfileSettings where
  name : String
  version : String
  path : String
  binding : String
  webhook : Url
  extractor : Option String
  deriving DecidableEq

/-- A whole configuration. -/
structure Config where
  defaultExtractor : String
  participant : ParticipantSettings
  defaultProfiles : List ProfileSettings
  profiles : List ProfileSettings
  deriving DecidableEq

namespace Settings

/-- The id of a connector that is given none. -/
def defaultParticipantId : String := "anonymous"

/-- The name of the extractor for protocols that name none. -/
def defaultExtractor : String := "credential-subject"

/-- The path of a profile that is given none. -/
def defaultProtocolPath : String := "/"

/-- The binding of a profile that is given none. -/
def defaultProtocolBinding : String := "HTTPS"

end Settings

/-- The ids of a connector that is given none. -/
def ParticipantSettings.default : ParticipantSettings := ⟨Settings.defaultParticipantId, .empty⟩

/-- The configuration that says nothing. -/
def Config.default : Config := ⟨Settings.defaultExtractor, .default, [], []⟩

end ConnectorProfiles
