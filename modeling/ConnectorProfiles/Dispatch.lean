import ConnectorProfiles.Event.Logged
import ConnectorProfiles.Extractor.Fault
import ConnectorProfiles.Extractor.Table
import ConnectorProfiles.Text.Blank

/-!
# Dispatch of id extraction

The id of a participant is what the extractor of the protocol finds, unless that is nothing or
blank. An extractor of the protocol's own that finds nothing is final: the one for all other
protocols is not asked instead.
-/

namespace ConnectorProfiles

/-- The extractors by which ids are found. -/
structure Dispatch where
  extractors : Extractor.Table

namespace Dispatch

/-- A dispatch in which no protocol has an extractor of its own. -/
def new (fallback : Extractor) : Dispatch := ⟨.new fallback⟩

/-- The id of a participant that speaks a protocol, from its claims. -/
def extractId (d : Dispatch) (claims : Claims) (protocol : String) :
    Logged (Except Extractor.Fault String) := do
  let dedicated := d.extractors.hasDedicated protocol
  match d.extractors.resolve protocol claims with
  | some id =>
    if Text.isBlank id then
      Logged.report (.idMissing protocol dedicated)
      return .error (.extractionFailed protocol)
    else
      Logged.report (.idExtracted protocol dedicated)
      return .ok id
  | none =>
    Logged.report (.idMissing protocol dedicated)
    return .error (.extractionFailed protocol)

/-- Installs the extractor of a protocol. -/
def register (d : Dispatch) (protocol : String) (extractor : Extractor) : Logged Dispatch := do
  Logged.report (.extraction protocol)
  return ⟨d.extractors.install protocol extractor⟩

/-- Replaces the extractor of all protocols without one of their own. -/
def replaceFallback (d : Dispatch) (extractor : Extractor) : Logged Dispatch := do
  Logged.report .dispatchFallback
  return ⟨d.extractors.replaceFallback extractor⟩

/-- The debug outline shows the extractors. -/
def outline (d : Dispatch) : Text.Outline :=
  .record "IdExtractionDispatch" "extractors" d.extractors.outline false

end Dispatch

end ConnectorProfiles
