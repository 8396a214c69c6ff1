import ConnectorProfiles.Event.Logged
import ConnectorProfiles.Extractor.Table
import ConnectorProfiles.Profile.Basic

/-!
# Profile registry

The profiles of a connector in two tiers, and the extractors of their protocols. The default tier
is active until the first standard profile is registered, and hidden from then on. A protocol is
looked up in the active tier, where the first profile of its name counts.
-/

namespace ConnectorProfiles

/-- The registered profiles, in the order of registration, and their extractors. -/
structure Registry where
  defaults : List Profile
  standards : List Profile
  extractors : Extractor.Table

namespace Registry

/-- A registry without profiles. -/
def new (fallback : Extractor) : Registry := ⟨[], [], .new fallback⟩

/-- Registers a profile of the default tier. -/
def registerDefault (r : Registry) (profile : Profile) : Logged Registry := do
  Logged.report (.defaultProfile profile.name profile.protocolVersion.version)
  return { r with defaults := r.defaults ++ [profile] }

/-- Registers a profile of the standard tier; the first one hides the default tier. -/
def register (r : Registry) (profile : Profile) : Logged Registry := do
  if r.standards.isEmpty && !r.defaults.isEmpty then
    Logged.report (.defaultsHidden profile.name r.defaults.length)
  Logged.report (.standardProfile profile.name profile.protocolVersion.version)
  return { r with standards := r.standards ++ [profile] }

/-- Registers a profile of the standard tier and the extractor of its protocol. -/
def registerWith (r : Registry) (profile : Profile) (extractor : Extractor) : Logged Registry :=
  { r with extractors := r.extractors.install profile.name extractor }.register profile

/-- Replaces the extractor of all protocols without one of their own. -/
def replaceFallback (r : Registry) (extractor : Extractor) : Logged Registry := do
  Logged.report .registryFallback
  return { r with extractors := r.extractors.replaceFallback extractor }

/-- The tier that is looked at. -/
def active (r : Registry) : List Profile :=
  if r.standards.isEmpty then r.defaults else r.standards

/-- The first active profile of a protocol. -/
def find? (r : Registry) (protocol : String) : Option Profile :=
  r.active.find? (·.name == protocol)

/-- The webhook of a protocol. -/
def webhook? (r : Registry) (protocol : String) : Option Webhook :=
  (r.find? protocol).map (·.webhook)

/-- The version of a protocol. -/
def version? (r : Registry) (protocol : String) : Option ProtocolVersion :=
  (r.find? protocol).map (·.protocolVersion)

/-- The extractor of a protocol. -/
def extractor (r : Registry) (protocol : String) : Extractor := r.extractors.resolve protocol

/-- Appends a version that is not there yet. -/
def advertise (versions : List ProtocolVersion) (version : ProtocolVersion) :
    List ProtocolVersion :=
  if version ∈ versions then versions else versions ++ [version]

/-- The versions of the active tier, each once, in the order of their first profiles. -/
def versions (r : Registry) : ProtocolVersions :=
  ⟨(r.active.map (·.protocolVersion)).foldl advertise []⟩

end Registry

end ConnectorProfiles
