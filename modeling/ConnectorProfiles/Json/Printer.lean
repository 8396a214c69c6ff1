import ConnectorProfiles.Decimal.Shortest
import ConnectorProfiles.Json.Basic

/-!
# Compact JSON text

A JSON value written without white space. Quotes, backslashes and controls in texts are escaped,
everything else stands as it is; numbers that are not integers always show a fraction or an
exponent, so they read back as such.
-/

namespace ConnectorProfiles

/-- Numbers are positional from five places after the point up to sixteen places before it. -/
def Json.numberLayout : Decimal.Layout := ⟨some (-4), some 16⟩

/-- The text of a number. -/
def Number.render : Number → String
  | .integer value => toString value
  | .real value => Json.numberLayout.text value

namespace Json

/-- Two lower-case hexadecimal digits. -/
private def twoDigits (n : Nat) : String :=
  String.ofList [Nat.digitChar (n / 16), Nat.digitChar (n % 16)]

/-- One character as it stands between the quotes. -/
def escapeChar (c : Char) : String :=
  if c = '"' then "\\\""
  else if c = '\\' then "\\\\"
  else if c = '\n' then "\\n"
  else if c = '\r' then "\\r"
  else if c = '\t' then "\\t"
  else if c.toNat = 0x08 then "\\b"
  else if c.toNat = 0x0c then "\\f"
  else if c.toNat < 0x20 then "\\u00" ++ twoDigits c.toNat
  else c.toString

/-- A text between double quotes. -/
def renderString (s : String) : String :=
  "\"" ++ String.join (s.toList.map escapeChar) ++ "\""

mutual

/-- The text of a value. -/
def render : Json → String
  | .null => "null"
  | .bool value => if value then "true" else "false"
  | .number value => value.render
  | .string value => renderString value
  | .array items => "[" ++ ",".intercalate (renderItems items) ++ "]"
  | .object members => "\x7b" ++ ",".intercalate (renderMembers members) ++ "\x7d"

/-- The texts of the items of an array. -/
def renderItems : List Json → List String
  | [] => []
  | item :: rest => item.render :: renderItems rest

/-- The text of one member. -/
def renderMember : String × Json → String
  | (key, value) => renderString key ++ ":" ++ value.render

/-- The texts of the members of an object. -/
def renderMembers : List (String × Json) → List String
  | [] => []
  | member :: rest => renderMember member :: renderMembers rest

end

end Json

end ConnectorProfiles
