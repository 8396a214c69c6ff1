import ConnectorProfiles.Decimal.Width
import ConnectorProfiles.Text.Pieces
import ConnectorProfiles.Toml.DateTime
import ConnectorProfiles.Toml.Table

/-!
# TOML values without quotes

Truth values, integers, real numbers, dates and times. An underscore may stand between two digits.
The shape of a number decides whether the text is well formed; whether its value is in range shows
only when the value is asked for.
-/

namespace ConnectorProfiles.Toml

/-- The value of a digit of a base up to sixteen. -/
def digitIn? (base : Nat) (c : Char) : Option Nat :=
  let value :=
    if c.isDigit then c.toNat - 48
    else if 'a' ≤ c ∧ c ≤ 'f' then c.toNat - 87
    else if 'A' ≤ c ∧ c ≤ 'F' then c.toNat - 55
    else 16
  if value < base then some value else none

/-- The natural that at least one digit of a base denotes. -/
def natIn? (base : Nat) (cs : List Char) : Option Nat :=
  if cs.isEmpty then none
  else cs.foldlM (fun n c ↦ do return n * base + (← digitIn? base c)) 0

/-- Drops a sign. -/
def dropSign : List Char → List Char
  | '+' :: rest | '-' :: rest => rest
  | cs => cs

/-- An integer of at most 128 bits, signed or not, with an optional sign. -/
def intIn? (base : Nat) (cs : List Char) : Option Int := do
  let magnitude ← natIn? base (dropSign cs)
  let value : Int := if cs.head? = some '-' then -magnitude else magnitude
  if Decimal.fitsSigned 128 value || Decimal.fitsUnsigned 128 value then some value else none

/-- Whether every underscore between the parts has a digit on both sides. A lone sign before the
first underscore passes. -/
def joinsDigits (isDigit : Char → Bool) : List (List Char) → Bool
  | [] | [_] => true
  | left :: right :: rest =>
    (left.length = 1 || left.getLast?.any isDigit) && right.head?.any isDigit &&
      joinsDigits isDigit (right :: rest)

/-- Takes underscores out of a numeral. -/
def takeUnderscores (isDigit : Char → Bool) (cs : List Char) : Option (List Char) :=
  if joinsDigits isDigit (Text.pieces (· = '_') cs) then some (cs.filter (· ≠ '_')) else none

/-- A digit of base sixteen. -/
def isHexDigit (c : Char) : Bool := (digitIn? 16 c).isSome

/-- A run of digits and underscores with at least one digit; no digit follows a leading zero,
where that is asked for. -/
def digitRun (leadingZero : Bool) (cs : List Char) : Option (List Char) :=
  let run := cs.takeWhile fun c ↦ c.isDigit || c = '_'
  let count := (run.filter (·.isDigit)).length
  if count = 0 ∨ (1 < count ∧ run.head? = some '0' ∧ ¬ leadingZero) then none
  else some (cs.drop run.length)

/-- Whether a text without sign has the shape of a real number. -/
def isReal (cs : List Char) : Bool :=
  let exponent (cs : List Char) : Bool :=
    match cs with
    | [] => true
    | c :: rest => (c = 'e' || c = 'E') && digitRun true (dropSign rest) = some []
  match digitRun false cs with
  | some ('.' :: rest) =>
    match digitRun true rest with
    | some rest => exponent rest
    | none => false
  | some rest => exponent rest
  | none => false

/-- The double nearest to a numeral without underscores; nothing when it is out of range. -/
def realOf? (cs : List Char) : Option Decimal.Double :=
  let body := dropSign cs
  let whole := body.takeWhile (·.isDigit)
  let rest := body.drop whole.length
  let fraction := ((rest.takeWhile fun c ↦ c.isDigit || c = '.').drop 1)
  let power := (rest.dropWhile fun c ↦ c.isDigit || c = '.').drop 1
  let exponent : Int := DateTime.natOf (dropSign power)
  let exponent := if power.head? = some '-' then -exponent else exponent
  .finite <$> Decimal.Binary64.ofDecimal? (cs.head? = some '-')
    (DateTime.natOf (whole ++ fraction)) (exponent - fraction.length)

/-- An integer of a base other than ten, after its mark. -/
def radixInteger (base : Nat) (cs : List Char) : Option Value := do
  if cs.any fun c ↦ c ≠ '_' && (digitIn? base c).isNone then none
  let digits ← takeUnderscores isHexDigit cs
  return .integer (intIn? base digits)

/-- A decimal number or a date or time. The text has a sign or not, `body` is what follows it. -/
def decimalOrDate (cs body : List Char) : Option Value :=
  let rest := body.dropWhile (·.isDigit)
  match rest with
  | '-' :: _ | ':' :: _ => (.dateTime <| String.ofList ·) <$> DateTime.normalize? cs
  | _ =>
    if rest.contains ' ' then none
    else if rest.any fun c ↦ c = '.' || c = 'e' || c = 'E' then
      if isReal body then (.real <| realOf? ·) <$> takeUnderscores (·.isDigit) cs else none
    else if rest.isEmpty ∨ rest.head? = some '_' then
      if body.head? = some '0' ∧ 1 < body.length then none
      else (.integer <| intIn? 10 ·) <$> takeUnderscores isHexDigit cs
    else none

/-- A value without quotes. -/
def scalar? (cs : List Char) : Option Value :=
  let signed := cs.head? = some '+' || cs.head? = some '-'
  let negative := cs.head? = some '-'
  match dropSign cs with
  | '0' :: 'x' :: rest => if signed then none else radixInteger 16 rest
  | '0' :: 'o' :: rest => if signed then none else radixInteger 8 rest
  | '0' :: 'b' :: rest => if signed then none else radixInteger 2 rest
  | ['t', 'r', 'u', 'e'] => if signed then none else some (.bool true)
  | ['f', 'a', 'l', 's', 'e'] => if signed then none else some (.bool false)
  | ['i', 'n', 'f'] => some (.real (some (.infinity negative)))
  | ['n', 'a', 'n'] => some (.real (some .nan))
  | c :: rest => if c.isDigit ∨ c = '_' then decimalOrDate cs (c :: rest) else none
  | [] => none

end ConnectorProfiles.Toml
