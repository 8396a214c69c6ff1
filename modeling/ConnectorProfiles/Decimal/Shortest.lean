import ConnectorProfiles.Decimal.Binary64

/-!
# Decimal text of doubles

A double is written with the fewest decimal digits that read back to it; of several such
decimals the nearest is taken, and of two equally near ones the one with an even last digit. Where
positional notation ends is a decision of the format at hand and stands in a `Layout`.
-/

namespace ConnectorProfiles.Decimal

/-- A positive decimal: `digits * 10 ^ power`. -/
structure Digits where
  digits : Nat
  power : Int
  deriving DecidableEq

/-- The reals that round to a positive double, in quarters of its last place over `den`. -/
private structure Interval where
  low : Nat
  value : Nat
  high : Nat
  den : Nat
  closed : Bool

/-- The interval of a double; it is half as wide below a power of two. -/
private def Interval.of (x : Binary64) : Interval :=
  let m := x.mantissa
  let e := x.exponent
  let low := if m = binadeSize ∧ -1074 < e then 4 * m - 1 else 4 * m - 2
  let scale := if 2 ≤ e then 1 <<< (e - 2).toNat else 1
  ⟨low * scale, 4 * m * scale, (4 * m + 2) * scale,
    if 2 ≤ e then 1 else 1 <<< (2 - e).toNat, m % 2 = 0⟩

/-- Both sides of the comparison of `digits * 10 ^ power` with a numerator over `den`. -/
private def Interval.sides (i : Interval) (d : Digits) : Nat × Nat :=
  if 0 ≤ d.power then (d.digits * Nat.pow 10 d.power.toNat * i.den, 1)
  else (d.digits * i.den, Nat.pow 10 (-d.power).toNat)

/-- Whether a decimal lies in the interval, whose ends belong to it for an even mantissa. -/
private def Interval.contains (i : Interval) (d : Digits) : Bool :=
  let (left, scale) := i.sides d
  if i.closed then i.low * scale ≤ left && left ≤ i.high * scale
  else i.low * scale < left && left < i.high * scale

/-- The least power of ten above a quotient. -/
private def leastPowerAbove (num den : Nat) : Int :=
  if den ≤ num then (Nat.toDigits 10 (num / den)).length
  else
    let j := (Nat.toDigits 10 (den / num)).length - 1
    if num * Nat.pow 10 j < den then -(j : Int) else 1 - (j : Int)

/-- Of two neighbours on a decimal grid, those in the interval compete by distance. -/
private def Interval.pick (i : Interval) (grid : Int) : Option Digits :=
  let below : Nat :=
    if 0 ≤ grid then i.value / (i.den * Nat.pow 10 grid.toNat)
    else i.value * Nat.pow 10 (-grid).toNat / i.den
  let lower : Digits := ⟨below, grid⟩
  let upper : Digits := ⟨below + 1, grid⟩
  match i.contains lower, i.contains upper with
  | false, false => none
  | true, false => some lower
  | false, true => some upper
  | true, true =>
    let (sum, scale) := i.sides ⟨2 * below + 1, grid⟩
    let twice := 2 * i.value * scale
    if twice < sum ∨ (twice = sum ∧ below % 2 = 0) then some lower else some upper

/-- The first decimal in the interval on ever finer grids. -/
private def Interval.search (i : Interval) (top : Int) : Nat → Nat → Digits
  | 0, n => ⟨i.value, top - n⟩
  | fuel + 1, n => (i.pick (top - n)).getD (i.search top fuel (n + 1))

/-- Moves trailing zeros of the digits into the power. -/
private def strip : Nat → Digits → Digits
  | 0, d => d
  | fuel + 1, d =>
    if d.digits % 10 = 0 ∧ d.digits ≠ 0 then strip fuel ⟨d.digits / 10, d.power + 1⟩ else d

/-- The shortest decimal that rounds to the magnitude of a double that is not zero. -/
def shortest (x : Binary64) : Digits :=
  let i := Interval.of x
  strip 17 (i.search (leastPowerAbove i.value i.den) 17 1)

/-- The positions of the decimal point, counted from the first digit, that are written
positionally; all others are written with an exponent. -/
structure Layout where
  first : Option Int
  last : Option Int

/-- Whether a position of the decimal point is written positionally. -/
def Layout.isPositional (l : Layout) (point : Int) : Bool :=
  l.first.all (· ≤ point) && l.last.all (point ≤ ·)

/-- The magnitude of a double; a fraction is always shown where no exponent is. -/
def Layout.magnitude (l : Layout) (x : Binary64) : String :=
  if x.isZero then "0.0"
  else
    let d := shortest x
    let text := toString d.digits
    let point : Int := text.length + d.power
    if l.isPositional point then
      if 0 ≤ d.power then text ++ String.ofList (List.replicate d.power.toNat '0') ++ ".0"
      else if 0 < point then
        String.ofList (text.toList.take point.toNat) ++ "." ++
          String.ofList (text.toList.drop point.toNat)
      else "0." ++ String.ofList (List.replicate (-point).toNat '0') ++ text
    else
      let fraction := text.toList.drop 1
      String.ofList (text.toList.take 1) ++
        (if fraction.isEmpty then "" else "." ++ String.ofList fraction) ++
        "e" ++ toString (point - 1)

/-- A finite double with its sign. -/
def Layout.text (l : Layout) (x : Binary64) : String :=
  (if x.negative then "-" else "") ++ l.magnitude x

/-- Every double is written positionally. -/
def Layout.positional : Layout := ⟨none, none⟩

end ConnectorProfiles.Decimal
