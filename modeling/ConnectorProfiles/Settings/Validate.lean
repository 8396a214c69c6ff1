import ConnectorProfiles.Settings.Basic
import ConnectorProfiles.Text.Blank

/-!
# Rules on settings

The rules that a configuration must keep, in the order in which they are checked; the first that it
breaks is reported.
-/

namespace ConnectorProfiles

/-- A rule that a configuration breaks. -/
inductive Violation where
  | blankDefaultExtractor
  | blankDefaultId
  | blankProtocol
  | blankParticipantId (protocol : String)
  | blankProfileName
  | blankProfileVersion (profile : String)
  | blankProfileExtractor (profile : String)
  | extractorOnDefault (profile : String)
  deriving DecidableEq, Repr

/-- The wording of a broken rule. -/
def Violation.message : Violation → String
  | .blankDefaultExtractor => "default_extractor must not be blank"
  | .blankDefaultId => "participant.default_id must not be blank"
  | .blankProtocol => "participant protocol names must not be blank"
  | .blankParticipantId protocol =>
    "participant id for protocol '" ++ protocol ++ "' must not be blank"
  | .blankProfileName => "profile name must not be blank"
  | .blankProfileVersion profile => "profile '" ++ profile ++ "' must declare a version"
  | .blankProfileExtractor profile => "profile '" ++ profile ++ "' names a blank extractor"
  | .extractorOnDefault profile =>
    "default profile '" ++ profile ++ "' cannot name an extractor; declare it under profiles"

/-- Refuses a blank text. -/
def refuseBlank (text : String) (violation : Violation) : Except Violation Unit :=
  if Text.isBlank text then .error violation else .ok ()

/-- The rules on the id under one protocol. -/
def validateParticipant (entry : String × String) : Except Violation Unit := do
  refuseBlank entry.1 .blankProtocol
  refuseBlank entry.2 (.blankParticipantId entry.1)

/-- The rules on a profile of either tier. -/
def ProfileSettings.validate (p : ProfileSettings) : Except Violation Unit := do
  refuseBlank p.name .blankProfileName
  refuseBlank p.version (.blankProfileVersion p.name)
  match p.extractor with
  | some extractor => refuseBlank extractor (.blankProfileExtractor p.name)
  | none => return ()

/-- The rule on a profile of the default tier alone. -/
def ProfileSettings.validateDefault (p : ProfileSettings) : Except Violation Unit :=
  if p.extractor.isSome then .error (.extractorOnDefault p.name) else .ok ()

/-- The rules on a configuration. -/
def Config.validate (c : Config) : Except Violation Unit := do
  refuseBlank c.defaultExtractor .blankDefaultExtractor
  refuseBlank c.participant.defaultId .blankDefaultId
  c.participant.protocols.entries.forM validateParticipant
  (c.defaultProfiles ++ c.profiles).forM ProfileSettings.validate
  c.defaultProfiles.forM ProfileSettings.validateDefault

end ConnectorProfiles
