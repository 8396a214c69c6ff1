/-!
# Finite doubles

A finite double is a sign and the rank of its magnitude among all finite magnitudes, counted from
zero. The rank is the magnitude's bit pattern, so ranks and magnitudes ascend together. Rounding
is done on exact quotients of naturals, to the nearest magnitude and on a tie to the even rank.
-/

namespace ConnectorProfiles.Decimal

/-- The number of magnitudes in a binade, which is `2 ^ 52`. -/
def binadeSize : Nat := 0x10000000000000

/-- The number of finite magnitudes, in 2047 binades. -/
def finiteMagnitudes : Nat := 2047 * binadeSize

/-- A finite double. -/
structure Binary64 where
  negative : Bool
  rank : Fin finiteMagnitudes
  deriving DecidableEq

/-- The natural nearest to `num / den`; halves go to the even neighbour. -/
def nearestEven (num den : Nat) : Nat :=
  let q := num / den
  let r := num % den
  if den < 2 * r ∨ (den = 2 * r ∧ q % 2 = 1) then q + 1 else q

/-- The quotient of `num / den` by `2 ^ e`, as a pair of naturals. -/
def scaleDown (num den : Nat) (e : Int) : Nat × Nat :=
  if 0 ≤ e then (num, den <<< e.toNat) else (num <<< (-e).toNat, den)

/-- The exponent of the binade of `num / den`, not below the one of the subnormal numbers. -/
def binade (num den : Nat) : Int :=
  let e := (num.log2 : Int) - den.log2 - 52
  let scaled := scaleDown num den e
  max (-1074) (if scaled.1 < scaled.2 * binadeSize then e - 1 else e)

namespace Binary64

/-- The zero of the given sign. -/
def zero (negative : Bool) : Binary64 := ⟨negative, ⟨0, by decide⟩⟩

/-- Whether the magnitude is zero. -/
def isZero (x : Binary64) : Bool := x.rank.val == 0

/-- The double nearest to a quotient; nothing when the quotient rounds beyond the finite range. -/
def ofRatio? (negative : Bool) (num den : Nat) : Option Binary64 :=
  if num = 0 then some (zero negative)
  else
    let e := binade num den
    let scaled := scaleDown num den e
    let rank := (e + 1074).toNat * binadeSize + nearestEven scaled.1 scaled.2
    if h : rank < finiteMagnitudes then some ⟨negative, ⟨rank, h⟩⟩ else none

/-- The magnitude is `mantissa * 2 ^ exponent`. -/
def mantissa (x : Binary64) : Nat :=
  if x.rank.val < binadeSize then x.rank.val else binadeSize + x.rank.val % binadeSize

/-- The magnitude is `mantissa * 2 ^ exponent`. -/
def exponent (x : Binary64) : Int :=
  if x.rank.val < binadeSize then -1074 else (x.rank.val / binadeSize : Nat) - 1075

/-- The magnitude as a quotient of naturals. -/
def ratio (x : Binary64) : Nat × Nat :=
  if 0 ≤ x.exponent then (x.mantissa <<< x.exponent.toNat, 1)
  else (x.mantissa, 1 <<< (-x.exponent).toNat)

/-- The double nearest to `digits * 10 ^ power`, rounded once. -/
def ofDecimal? (negative : Bool) (digits : Nat) (power : Int) : Option Binary64 :=
  let places := (Nat.toDigits 10 digits).length
  if digits = 0 ∨ power + places < -400 then some (zero negative)
  else if 400 < power + places then none
  else if 0 ≤ power then ofRatio? negative (digits * Nat.pow 10 power.toNat) 1
  else ofRatio? negative digits (Nat.pow 10 (-power).toNat)

/-- The double nearest to the product with a power of ten that is itself a double. -/
def timesPowerOfTen? (x : Binary64) (power : Nat) : Option Binary64 := do
  let y ← ofRatio? false (Nat.pow 10 power) 1
  ofRatio? x.negative (x.ratio.1 * y.ratio.1) (x.ratio.2 * y.ratio.2)

/-- The double nearest to the quotient by a power of ten that is itself a double. -/
def overPowerOfTen? (x : Binary64) (power : Nat) : Option Binary64 := do
  let y ← ofRatio? false (Nat.pow 10 power) 1
  ofRatio? x.negative (x.ratio.1 * y.ratio.2) (x.ratio.2 * y.ratio.1)

end Binary64

/-- A double of any kind. -/
inductive Double where
  | finite (x : Binary64)
  | infinity (negative : Bool)
  | nan
  deriving DecidableEq

end ConnectorProfiles.Decimal
