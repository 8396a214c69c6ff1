/-!
# Blank text

A text is blank when nothing is left of it after taking white space off both ends, which is the
same as holding white space only. White space is the Unicode property of that name: twenty-five
characters, among them the no-break spaces and the line separators, but not the zero-width
characters and not the four information separators `U+001C` to `U+001F`.
-/

namespace ConnectorProfiles.Text

/-- The characters with the Unicode property `White_Space`. -/
def isSpace (c : Char) : Bool :=
  let n := c.toNat
  (9 ≤ n && n ≤ 13) || n == 0x20 || n == 0x85 || n == 0xa0 || n == 0x1680 ||
    (0x2000 ≤ n && n ≤ 0x200a) || n == 0x2028 || n == 0x2029 || n == 0x202f ||
    n == 0x205f || n == 0x3000

/-- Holds white space only; the empty text is blank. -/
def isBlank (s : String) : Bool := s.toList.all isSpace

/-- A text is not blank exactly when some character of it is not white space. -/
theorem isBlank_eq_false_iff (s : String) :
    isBlank s = false ↔ ∃ c ∈ s.toList, isSpace c = false := by
  simp [isBlank]

end ConnectorProfiles.Text
