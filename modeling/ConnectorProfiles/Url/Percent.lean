/-!
# Percent encoding

Each part of an address has a set of characters that it writes as their UTF-8 bytes in percent
form. Controls and everything beyond ASCII belong to every set; a percent sign belongs to none, so
text that is encoded already stays as it is.
-/

namespace ConnectorProfiles.Url

/-- The characters of ASCII that a part of an address encodes beside the controls. -/
abbrev EncodeSet := List Char

/-- The characters that a fragment encodes. -/
def fragmentSet : EncodeSet := [' ', '"', '<', '>', '\x60']

/-- The characters that a query encodes. -/
def querySet : EncodeSet := [' ', '"', '#', '<', '>']

/-- The characters that the query of an address with a special scheme encodes. -/
def specialQuerySet : EncodeSet := '\'' :: querySet

/-- The characters that a path encodes. -/
def pathSet : EncodeSet := fragmentSet ++ ['#', '?', '\x7b', '\x7d']

/-- The characters that user names and passwords encode. -/
def userinfoSet : EncodeSet := pathSet ++ ['/', ':', ';', '=', '@', '[', '\\', ']', '^', '|']

/-- Two upper-case hexadecimal digits after a percent sign. -/
def percentByte (b : UInt8) : List Char :=
  ['%', (Nat.digitChar (b.toNat / 16)).toUpper, (Nat.digitChar (b.toNat % 16)).toUpper]

/-- Whether a part with the given set encodes a character. -/
def encodes (set : EncodeSet) (c : Char) : Bool :=
  c.toNat < 0x20 || 0x7f ≤ c.toNat || c ∈ set

/-- Writes the characters of the set in percent form. -/
def percentEncode (set : EncodeSet) (cs : List Char) : List Char :=
  cs.flatMap fun c ↦
    if encodes set c then (String.utf8EncodeChar c).flatMap percentByte else [c]

/-- The value of a hexadecimal digit. -/
def hexValue? (c : Char) : Option Nat :=
  if c.isDigit then some (c.toNat - 48)
  else if 'a' ≤ c ∧ c ≤ 'f' then some (c.toNat - 87)
  else if 'A' ≤ c ∧ c ≤ 'F' then some (c.toNat - 55)
  else none

/-- Replaces each percent sign with two hexadecimal digits by its byte. -/
def percentDecode : List Char → List UInt8
  | [] => []
  | '%' :: a :: b :: rest =>
    match hexValue? a, hexValue? b with
    | some high, some low => (16 * high + low).toUInt8 :: percentDecode rest
    | _, _ => '%'.toUInt8 :: percentDecode (a :: b :: rest)
  | c :: rest => String.utf8EncodeChar c ++ percentDecode rest

end ConnectorProfiles.Url
