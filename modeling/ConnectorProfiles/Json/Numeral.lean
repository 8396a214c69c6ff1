import ConnectorProfiles.Decimal.Width
import ConnectorProfiles.Json.Basic

/-!
# Reading JSON numbers

A numeral without fraction and exponent that fits 64 bits is an integer. Every other numeral is
read as a significand of at most 64 bits and a power of ten: integer digits that no longer fit
raise the power, fraction digits that no longer fit are dropped. The significand is then
multiplied or divided by the power of ten as a double, rounding at every operation.
-/

namespace ConnectorProfiles.JsonText

/-- A significand of at most 64 bits and a power of ten. -/
structure Scaled where
  significand : Nat
  power : Int

/-- Appends integer digits; from the first that does not fit on, each digit raises the power. -/
def Scaled.addInteger : List Nat → Scaled → Scaled
  | [], s => s
  | digit :: rest, s =>
    let next := s.significand * 10 + digit
    if s.power = 0 ∧ Decimal.fitsUnsigned 64 next then Scaled.addInteger rest ⟨next, 0⟩
    else Scaled.addInteger rest ⟨s.significand, s.power + 1⟩

/-- Appends fraction digits up to the first that does not fit. -/
def Scaled.addFraction : List Nat → Scaled → Scaled
  | [], s => s
  | digit :: rest, s =>
    let next := s.significand * 10 + digit
    if Decimal.fitsUnsigned 64 next then Scaled.addFraction rest ⟨next, s.power - 1⟩ else s

/-- The parts of a numeral: sign, integer digits, fraction digits, and exponent where present. -/
structure Numeral where
  negative : Bool
  integer : List Nat
  fraction : List Nat
  exponent : Option Int

/-- Divides by a power of ten, at most 308 decimal places at a time. -/
def overPower (x : Decimal.Binary64) (power : Nat) : Option Decimal.Binary64 :=
  if power ≤ 308 then x.overPowerOfTen? power
  else if x.isZero then some x
  else do overPower (← x.overPowerOfTen? 308) (power - 308)
termination_by power

/-- The double of a significand and a power of ten; nothing when it is out of range. -/
def Scaled.toBinary64? (s : Scaled) (negative : Bool) : Option Decimal.Binary64 := do
  let x ← Decimal.Binary64.ofRatio? negative s.significand 1
  if s.power < 0 then overPower x (-s.power).toNat
  else if s.power ≤ 308 then x.timesPowerOfTen? s.power.toNat
  else if x.isZero then some x
  else none

/-- The number that a numeral denotes; nothing when it is out of range. -/
def Numeral.toNumber? (n : Numeral) : Option Number :=
  let s := Scaled.addInteger n.integer ⟨0, 0⟩
  match n.fraction, n.exponent with
  | [], none =>
    if s.power = 0 ∧ ¬ n.negative then some (.integer s.significand)
    else if s.power = 0 ∧ s.significand ≠ 0 ∧ Decimal.fitsSigned 64 (-s.significand) then
      some (.integer (-s.significand))
    else .real <$> s.toBinary64? n.negative
  | fraction, exponent =>
    let s := Scaled.addFraction fraction s
    .real <$> Scaled.toBinary64? ⟨s.significand, s.power + exponent.getD 0⟩ n.negative

end ConnectorProfiles.JsonText
