import ConnectorProfiles.Url.Basic

/-!
# Protocol profiles

A profile names a wire protocol and says which version of it the connector speaks and where its
webhook listens. Versions are equal when label, path and binding are.
-/

namespace ConnectorProfiles

/-- A version of a protocol: its label, the path it is served under and its binding. -/
structure ProtocolVersion where
  version : String
  path : String
  binding : String
  deriving DecidableEq, Repr

/-- A version on one line. -/
def ProtocolVersion.display (v : ProtocolVersion) : String :=
  v.version ++ " (" ++ v.binding ++ " " ++ v.path ++ ")"

/-- The versions that a connector advertises. -/
structure ProtocolVersions where
  toList : List ProtocolVersion
  deriving DecidableEq, Repr

/-- Where a protocol is called. -/
structure Webhook where
  url : Url
  deriving DecidableEq

/-- A protocol profile. -/
structure Profile where
  name : String
  protocolVersion : ProtocolVersion
  webhook : Webhook
  deriving DecidableEq

end ConnectorProfiles
