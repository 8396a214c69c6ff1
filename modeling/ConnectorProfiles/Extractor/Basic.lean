import ConnectorProfiles.Claims.Basic

/-!
# Identity extractors

An extractor finds the id of a participant among its claims, or none. The usual one reads a list of
credentials and takes the first subject with an id.
-/

namespace ConnectorProfiles

/-- Finds the id of a participant among its claims. -/
abbrev Extractor := Claims → Option String

namespace Extractor

/-- The claim that holds the presented credentials. -/
def credentialsClaim : String := "vc"

/-- The first id of a subject in the credentials of a list. Entries that are no credentials are
passed over. -/
def firstSubjectId (entries : List Claim) : Option String :=
  ((entries.filterMap Claim.credential?).flatMap (·.subjects)).findSome? (·.id)

/-- Takes the first subject id in the credentials that a claim lists. -/
def credentialSubject (claim : String) : Extractor := fun claims ↦
  firstSubjectId ((claims.list? claim).getD [])

end Extractor

end ConnectorProfiles
