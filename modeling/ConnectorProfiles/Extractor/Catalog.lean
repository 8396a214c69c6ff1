import ConnectorProfiles.Extractor.Basic
import ConnectorProfiles.Extractor.Fault
import ConnectorProfiles.Text.Outline

/-!
# Named extractors

A catalog holds the extractors that a configuration may name.
-/

namespace ConnectorProfiles.Extractor

/-- Extractors under their names. -/
structure Catalog where
  byName : NameMap Extractor

namespace Catalog

/-- The name of the usual extractor. -/
def credentialSubjectName : String := "credential-subject"

/-- A catalog without extractors. -/
def empty : Catalog := ⟨.empty⟩

/-- Names an extractor, replacing the one of that name. -/
def insert (c : Catalog) (name : String) (extractor : Extractor) : Catalog :=
  ⟨c.byName.insert name extractor⟩

/-- The catalog that names the usual extractor only. -/
def builtins : Catalog :=
  empty.insert credentialSubjectName (credentialSubject credentialsClaim)

/-- The extractor of a name. -/
def get? (c : Catalog) (name : String) : Option Extractor := c.byName.get? name

/-- The extractor of a name, which must be known. -/
def require (c : Catalog) (name : String) : Except Fault Extractor :=
  match c.get? name with
  | some extractor => .ok extractor
  | none => .error (.unknownExtractor name)

/-- The names in ascending order. -/
def names (c : Catalog) : List String := c.byName.names

/-- The debug outline shows the names. -/
def outline (c : Catalog) : Text.Outline :=
  .record "ExtractorCatalog" "names" (.list (c.names.map .text)) false

end Catalog

end ConnectorProfiles.Extractor
