/-!
# Tables over characters

A property of characters is a list of ranges of code points. A map from characters to texts is a
list of runs: the code point of a first character and the texts of that character and of those
that follow it.
-/

namespace ConnectorProfiles.Text

/-- Ranges of code points, each with its first and its last. -/
abbrev Ranges := List (Nat × Nat)

/-- Whether a character lies in one of the ranges. -/
def Ranges.holds (ranges : Ranges) (c : Char) : Bool :=
  ranges.any fun (first, last) ↦ first ≤ c.toNat && c.toNat ≤ last

/-- Runs of characters, each with the code point of its first and the texts of all. The runs stand
in ascending order. -/
abbrev Runs := List (Nat × String)

/-- The entry for a character, the entries of a run being given by `entries`: only the last run that
begins at the character or before it can hold one. -/
def Runs.find? {α : Type} (entries : String → List α) (runs : Runs) (c : Char) : Option α := do
  let (first, text) ← (runs.takeWhile (·.1 ≤ c.toNat)).getLast?
  (entries text)[c.toNat - first]?

/-- The words of a text with a blank between each two. -/
def words (text : String) : List (List Char) := (text.splitOn " ").map (·.toList)

/-- The character that runs of single characters give for a character. -/
def Runs.char? (runs : Runs) (c : Char) : Option Char := runs.find? (·.toList) c

/-- The word that runs of words give for a character. -/
def Runs.word? (runs : Runs) (c : Char) : Option (List Char) := runs.find? words c

/-- All characters of runs of words, each with its word. -/
def Runs.entries (runs : Runs) : List (Char × List Char) :=
  runs.flatMap fun (first, text) ↦
    (words text).zipIdx.map fun (word, i) ↦ (Char.ofNat (first + i), word)

end ConnectorProfiles.Text
