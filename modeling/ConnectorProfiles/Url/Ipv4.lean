import ConnectorProfiles.Text.Pieces
import ConnectorProfiles.Url.Percent

/-!
# IPv4 addresses

A host whose last part looks like a number must be an IPv4 address: up to four numbers between
dots, decimal, octal after `0` or hexadecimal after `0x`, of which the last fills all bytes that
are left. It is written as four decimal bytes.
-/

namespace ConnectorProfiles.Url

/-- An IPv4 address. -/
structure Ipv4 where
  value : BitVec 32
  deriving DecidableEq

/-- The natural that digits of a base denote; nothing if a character is no digit of the base. -/
def numberInBase? (base : Nat) (cs : List Char) : Option Nat :=
  cs.foldlM (fun n c ↦ do
    let digit ← hexValue? c
    if digit < base then some (n * base + digit) else none) 0

/-- A number of an IPv4 address; a bare `0x` is zero. -/
def ipv4Number? : List Char → Option Nat
  | [] => none
  | '0' :: 'x' :: digits | '0' :: 'X' :: digits => numberInBase? 16 digits
  | '0' :: digit :: digits => numberInBase? 8 (digit :: digits)
  | cs => numberInBase? 10 cs

/-- The parts between dots, without an empty last part. -/
def dottedParts (cs : List Char) : List (List Char) :=
  let parts := Text.pieces (· = '.') cs
  if parts.getLast? = some [] then parts.dropLast else parts

/-- Whether the last part between dots looks like a number. -/
def endsInNumber (cs : List Char) : Bool :=
  match (dottedParts cs).getLast? with
  | none => false
  | some part => (!part.isEmpty && part.all (·.isDigit)) || (ipv4Number? part).isSome

/-- Reads the numbers between dots as an address. -/
def Ipv4.parse? (cs : List Char) : Option Ipv4 := do
  let parts := dottedParts cs
  if 4 < parts.length then none
  let numbers ← parts.mapM ipv4Number?
  let last ← numbers.getLast?
  let leading := numbers.dropLast
  if Nat.pow 256 (4 - leading.length) ≤ last then none
  if leading.any (255 < ·) then none
  let high := leading.zipIdx.foldl (fun sum (n, i) ↦ sum + n * Nat.pow 256 (3 - i)) 0
  return ⟨BitVec.ofNat 32 (high + last)⟩

/-- The four bytes in decimal. -/
def Ipv4.render (a : Ipv4) : String :=
  let n := a.value.toNat
  ".".intercalate ([n >>> 24, (n >>> 16) % 256, (n >>> 8) % 256, n % 256].map toString)

end ConnectorProfiles.Url
