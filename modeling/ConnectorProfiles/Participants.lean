import ConnectorProfiles.Event.Logged
import ConnectorProfiles.NameMap

/-!
# Own participant ids

The id that the connector presents under each protocol, and the one that it presents under all
others. No protocol name is reserved.
-/

namespace ConnectorProfiles

/-- The connector's own ids. -/
structure Participants where
  byProtocol : NameMap String
  defaultId : String
  deriving DecidableEq

namespace Participants

/-- One id under all protocols. -/
def new (defaultId : String) : Participants := ⟨.empty, defaultId⟩

/-- The id under a protocol. -/
def resolve (p : Participants) (protocol : String) : String :=
  (p.byProtocol.get? protocol).getD p.defaultId

/-- Sets the id under a protocol. -/
def register (p : Participants) (protocol id : String) : Logged Participants := do
  Logged.report (.participant protocol id)
  return { p with byProtocol := p.byProtocol.insert protocol id }

end Participants

end ConnectorProfiles
