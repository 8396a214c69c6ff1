import ConnectorProfiles.Url.Ipv4

/-!
# IPv6 addresses

Eight groups of up to four hexadecimal digits; one run of zero groups may be left out, and the
last two groups may be written as an IPv4 address. It is written with the first longest run of at
least two zero groups left out.
-/

namespace ConnectorProfiles.Url

/-- An IPv6 address: its groups, of which there are eight. -/
structure Ipv6 where
  groups : List Nat
  deriving DecidableEq

/-- A decimal byte without a leading zero. -/
private def byte? (cs : List Char) : Option Nat := do
  if cs.isEmpty ∨ (cs.head? = some '0' ∧ cs.length ≠ 1) then none
  let n ← numberInBase? 10 cs
  if n ≤ 255 then some n else none

/-- The two groups of a trailing IPv4 address. -/
private def tailGroups? (cs : List Char) : Option (List Nat) := do
  match ← (Text.pieces (· = '.') cs).mapM byte? with
  | [a, b, c, d] => some [a * 256 + b, c * 256 + d]
  | _ => none

/-- Reads groups from the left. Besides the groups read so far, of which the one for a left-out run
is zero, the result says how many stand up to that run. -/
private def readGroups :
    Nat → List Char → List Nat → Option Nat → Option (List Nat × Option Nat)
  | _, [], groups, gap => some (groups, gap)
  | 0, _, _, _ => none
  | fuel + 1, cs, groups, gap =>
    if groups.length = 8 then none
    else
      match cs with
      | ':' :: rest =>
        if gap.isSome then none
        else readGroups fuel rest (groups ++ [0]) (some (groups.length + 1))
      | _ =>
        let digits := (cs.take 4).takeWhile fun c ↦ (hexValue? c).isSome
        match cs.drop digits.length with
        | [] => do
          let n ← numberInBase? 16 digits
          some (groups ++ [n], gap)
        | ':' :: [] => none
        | ':' :: rest => do
          let n ← numberInBase? 16 digits
          readGroups fuel rest (groups ++ [n]) gap
        | '.' :: _ => do
          if digits.isEmpty ∨ 6 < groups.length then none
          let tail ← tailGroups? cs
          some (groups ++ tail, gap)
        | _ => none

/-- Reads the text between the brackets. -/
def Ipv6.parse? (cs : List Char) : Option Ipv6 := do
  let (groups, gap) ← match cs with
    | ':' :: ':' :: rest => readGroups cs.length rest [0] (some 1)
    | ':' :: _ => none
    | _ => readGroups cs.length cs [] none
  match gap with
  | some position =>
    some ⟨groups.take position ++ List.replicate (8 - groups.length) 0 ++ groups.drop position⟩
  | none => if groups.length = 8 then some ⟨groups⟩ else none

/-- The length of the run of zeros at the front. -/
private def zeroRun (groups : List Nat) : Nat := (groups.takeWhile (· = 0)).length

/-- The start and length of the first longest run of zeros. -/
private def longestZeroRun (groups : List Nat) : Nat × Nat :=
  (List.range groups.length).foldl (fun best i ↦
    let run := zeroRun (groups.drop i)
    if best.2 < run then (i, run) else best) (0, 0)

/-- The groups in hexadecimal, between colons, with the first longest run of zeros left out. -/
def Ipv6.render (a : Ipv6) : String :=
  let hex (gs : List Nat) : String :=
    ":".intercalate (gs.map fun n ↦ String.ofList (Nat.toDigits 16 n))
  let (start, length) := longestZeroRun a.groups
  if length < 2 then hex a.groups
  else hex (a.groups.take start) ++ "::" ++ hex (a.groups.drop (start + length))

end ConnectorProfiles.Url
