/-!
# Pieces of a text

A text falls into pieces at separators; a text without one is a single piece, and neighbouring
separators have an empty piece between them.
-/

namespace ConnectorProfiles.Text

/-- Cuts a text at every separator. -/
def pieces (isSeparator : Char → Bool) : List Char → List (List Char)
  | [] => [[]]
  | c :: rest =>
    if isSeparator c then [] :: pieces isSeparator rest
    else
      match pieces isSeparator rest with
      | [] => [[c]]
      | piece :: more => (c :: piece) :: more

end ConnectorProfiles.Text
