import ConnectorProfiles.Extractor.Basic
import ConnectorProfiles.Text.Outline

/-!
# Extractors by protocol

A table holds an extractor for some protocols and one for all others. One key is reserved: what is
installed under it becomes the extractor for all others, so it never has one of its own.
-/

namespace ConnectorProfiles.Extractor

/-- Extractors of single protocols, and the one for all others. -/
structure Table where
  fallback : Extractor
  dedicated : NameMap Extractor

namespace Table

/-- The reserved key. -/
def defaultKey : String := "default"

/-- A table in which no protocol has an extractor of its own. -/
def new (fallback : Extractor) : Table := ⟨fallback, .empty⟩

/-- Gives a protocol an extractor of its own, or all others theirs under the reserved key. -/
def install (t : Table) (protocol : String) (extractor : Extractor) : Table :=
  if protocol = defaultKey then { t with fallback := extractor }
  else { t with dedicated := t.dedicated.insert protocol extractor }

/-- Replaces the extractor for all protocols without one of their own. -/
def replaceFallback (t : Table) (extractor : Extractor) : Table :=
  { t with fallback := extractor }

/-- The extractor of a protocol. -/
def resolve (t : Table) (protocol : String) : Extractor :=
  (t.dedicated.get? protocol).getD t.fallback

/-- Whether a protocol has an extractor of its own. -/
def hasDedicated (t : Table) (protocol : String) : Bool :=
  t.dedicated.contains protocol

/-- The debug outline names the protocols with an extractor of their own. -/
def outline (t : Table) : Text.Outline :=
  .record "ExtractorTable" "dedicated" (.list (t.dedicated.names.map .text)) true

end Table

end ConnectorProfiles.Extractor
