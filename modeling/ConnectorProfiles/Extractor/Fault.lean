/-!
# Faults of identity extraction

Why an id is not found or an extractor not known. Each fault has one wording.
-/

namespace ConnectorProfiles.Extractor

/-- Why no id is found or no extractor is known. -/
inductive Fault where
  | extractionFailed (protocol : String)
  | unknownExtractor (name : String)
  deriving DecidableEq, Repr

/-- The wording of a fault. -/
def Fault.message : Fault → String
  | .extractionFailed protocol =>
    "failed to extract participant id for protocol '" ++ protocol ++ "'"
  | .unknownExtractor name =>
    "identity extractor '" ++ name ++ "' is not registered in the catalog"

end ConnectorProfiles.Extractor
