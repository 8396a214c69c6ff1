import ConnectorProfiles.Text.Normal
import ConnectorProfiles.Text.Pieces
import ConnectorProfiles.Url.Domain.Direction
import ConnectorProfiles.Url.Domain.Joining
import ConnectorProfiles.Url.Domain.Punycode
import ConnectorProfiles.Url.Domain.Replacement

/-!
# Domain names

A domain name is a list of labels between dots. It may be given with any characters; its written
form is plain. A label with other characters is written as `xn--` and the plain form of the label.
-/

namespace ConnectorProfiles.Url.Domain

open Text (isMark normalize pieces)

/-- The plain characters that no domain name holds, controls apart. -/
def excluded : List Char :=
  [' ', '%', '#', '/', ':', '<', '>', '?', '@', '[', '\\', ']', '^', '|', '\x7f']

/-- Whether a domain name may hold a character. -/
def isAdmitted (c : Char) : Bool := 0x20 ≤ c.toNat && c ∉ excluded

/-- The longest plain form that is read, and the longest label that is written in plain form. -/
def maxEncoded : Nat := 2000

/-- The longest label that is written in plain form. -/
def maxLabel : Nat := 1000

/-- Whether a label that was given in plain form is one that the name could hold as it is: it needs
that form, and reading the name would leave it alone. -/
def isSettled (label : List Char) : Bool :=
  !label.all isPlain && normalize label = label &&
    label.all fun c ↦ replacement? c = some [c] && isAdmitted c

/-- The label that a label of the name stands for: what its plain form says, or itself. -/
def label? : List Char → Option (List Char)
  | 'x' :: 'n' :: '-' :: '-' :: written =>
    if written.length ≤ maxEncoded && written.all isPlain then
      (decode? written).filter isSettled
    else none
  | label => some label

/-- Whether a label begins with a character of its own, shapes its letters properly and is not too
long. -/
def isSound (label : List Char) : Bool :=
  !label.head?.any isMark && joinersShow [] label &&
    (label.all isPlain || label.length ≤ maxLabel)

/-- The written form of a label. -/
def written (label : List Char) : List Char :=
  if label.all isPlain then label else "xn--".toList ++ encode label

/-- The written form of a domain name, or nothing for a text that is none. -/
def toAscii? (text : List Char) : Option (List Char) := do
  let replaced ← text.mapM replacement?
  let name := normalize replaced.flatten
  if !name.all isAdmitted then none
  let labels ← (pieces (· = '.') name).mapM label?
  if !labels.all isSound then none
  if labels.any (·.any hasDirection) && !labels.all (keepsDirection <| ·.map direction) then none
  return ['.'].intercalate (labels.map written)

end ConnectorProfiles.Url.Domain
