import ConnectorProfiles.Text.Unprintable

/-!
# Quoted text

The form in which messages and debug texts show a text: between double quotes, with an escape for
the quote, the backslash and every character that would not show. Four controls have a letter or
digit of their own; the others are written by their code point.
-/

namespace ConnectorProfiles.Text

/-- A code point in lower-case hexadecimal digits, without leading zeros. -/
def hexDigits (n : Nat) : String := String.ofList (Nat.toDigits 16 n)

/-- One character as it stands between the quotes. -/
def escapeChar (c : Char) : String :=
  if c = '"' then "\\\""
  else if c = '\\' then "\\\\"
  else if c = '\n' then "\\n"
  else if c = '\r' then "\\r"
  else if c = '\t' then "\\t"
  else if c.toNat = 0 then "\\0"
  else if 0x20 ≤ c.toNat && c.toNat < 0x7f then c.toString
  else if isUnprintable c then "\\u\x7b" ++ hexDigits c.toNat ++ "\x7d"
  else c.toString

/-- A text between double quotes. -/
def quote (s : String) : String :=
  "\"" ++ String.join (s.toList.map escapeChar) ++ "\""

end ConnectorProfiles.Text
