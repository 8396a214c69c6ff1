import ConnectorProfiles.Text.Normal.Decomposition
import ConnectorProfiles.Text.Normal.MarkClass

/-!
# Normal form of a text

Texts that differ only in how their characters are spelled have one normal form: every character
is spelled out, marks are put in the order of their classes, and then each character takes up the
marks after it that it can be composed with.
-/

namespace ConnectorProfiles.Text

/-- Puts a character in front of a text whose marks stand in order; a mark moves behind the marks
of lower classes. -/
def placeMark (c : Char) : List Char → List Char
  | [] => [c]
  | d :: rest =>
    if markClass d < markClass c && markClass d ≠ 0 then d :: placeMark c rest else c :: d :: rest

/-- Puts the marks of a text in the order of their classes. -/
def orderMarks (text : List Char) : List Char := text.foldr placeMark []

/-- The spellings that are composed again, each with its character. -/
def compositions : List (Char × List Char) :=
  pairSpellings.entries.filter fun (c, _) ↦ !neverComposed.holds c

/-- The syllable block that two letters, or a block of two letters and a third, make up. -/
def syllable? (a b : Char) : Option Char :=
  let (m, n) := (a.toNat, b.toNat)
  if 0x1100 ≤ m ∧ m < 0x1113 ∧ 0x1161 ≤ n ∧ n < 0x1176 then
    some (Char.ofNat (0xac00 + ((m - 0x1100) * 21 + (n - 0x1161)) * 28))
  else if 0xac00 ≤ m ∧ m ≤ 0xd7a3 ∧ (m - 0xac00) % 28 = 0 ∧ 0x11a7 < n ∧ n < 0x11c3 then
    some (Char.ofNat (m + (n - 0x11a7)))
  else none

/-- The character that is spelled out as one character followed by another. -/
def composition? (a b : Char) : Option Char :=
  match syllable? a b with
  | some c => some c
  | none =>
    let spelling := spell a ++ [b]
    (compositions.find? (·.2 = spelling)).map (·.1)

/-- Composes a text, given its first character and, in reverse order, the marks after it that it
has not taken up. A mark of the same class as the one before it is out of reach. -/
def composeAfter (first : Char) (marks : List Char) : List Char → List Char
  | [] => first :: marks.reverse
  | c :: rest =>
    let order := markClass c
    let reachable := marks.head?.all (markClass · < order)
    match if reachable then composition? first c else none with
    | some composed => composeAfter composed marks rest
    | none =>
      if order = 0 then first :: marks.reverse ++ composeAfter c [] rest
      else composeAfter first (c :: marks) rest

/-- Composes a text whose marks stand in order; marks at its beginning stay as they are. -/
def compose : List Char → List Char
  | [] => []
  | c :: rest => if markClass c = 0 then composeAfter c [] rest else c :: compose rest

/-- The normal form of a text. -/
def normalize (text : List Char) : List Char := compose (orderMarks (text.flatMap spell))

end ConnectorProfiles.Text
