/-!
# TOML dates and times

A date, a time of day, or a date with a time and perhaps an offset. Seconds may be left out, and
of their fraction nine digits count. The normal form has a capital `T` and `Z` and no trailing
zeros in the fraction.
-/

namespace ConnectorProfiles.Toml.DateTime

/-- The value of decimal digits. -/
def natOf (cs : List Char) : Nat := cs.foldl (fun n c ↦ n * 10 + (c.toNat - 48)) 0

/-- A number of exactly `width` digits. -/
def fixed (width : Nat) (cs : List Char) : Option (Nat × List Char) :=
  let ds := cs.takeWhile (·.isDigit)
  if ds.length = width then some (natOf ds, cs.drop width) else none

/-- One character. -/
def mark (c : Char) : List Char → Option (List Char)
  | first :: rest => if first = c then some rest else none
  | [] => none

/-- The number of days in a month. -/
def daysIn (year month : Nat) : Nat :=
  if month = 2 then
    if year % 4 = 0 ∧ (year % 100 ≠ 0 ∨ year % 400 = 0) then 29 else 28
  else if month = 4 ∨ month = 6 ∨ month = 9 ∨ month = 11 then 30
  else 31

/-- A date. -/
def date (cs : List Char) : Option (List Char × List Char) := do
  let (year, rest) ← fixed 4 cs
  let (month, rest) ← fixed 2 (← mark '-' rest)
  let (day, rest) ← fixed 2 (← mark '-' rest)
  if month < 1 ∨ 12 < month ∨ day < 1 ∨ daysIn year month < day then none
  return (cs.take 10, rest)

/-- The digits of a fraction in normal form. -/
def normalFraction (ds : List Char) : List Char :=
  match ((ds.take 9).reverse.dropWhile (· = '0')).reverse with
  | [] => ['0']
  | kept => kept

/-- Seconds and their fraction, if they stand here. -/
def seconds (cs : List Char) : Option (List Char × List Char) :=
  match cs with
  | ':' :: rest => do
    let (second, after) ← fixed 2 rest
    if 60 < second then none
    match after with
    | '.' :: rest' =>
      let ds := rest'.takeWhile (·.isDigit)
      if ds.isEmpty then none
      return (':' :: rest.take 2 ++ '.' :: normalFraction ds, rest'.drop ds.length)
    | _ => return (':' :: rest.take 2, after)
  | _ => some ([], cs)

/-- A time of day. -/
def time (cs : List Char) : Option (List Char × List Char) := do
  let (hour, rest) ← fixed 2 cs
  let (minute, rest) ← fixed 2 (← mark ':' rest)
  if 23 < hour ∨ 59 < minute then none
  let (tail, rest) ← seconds rest
  return (cs.take 5 ++ tail, rest)

/-- An offset, if one stands here; an offset of nothing is positive. -/
def offset (cs : List Char) : Option (List Char × List Char) :=
  match cs with
  | sign :: rest =>
    if sign = 'z' ∨ sign = 'Z' then some (['Z'], rest)
    else if sign = '+' ∨ sign = '-' then do
      let (hour, after) ← fixed 2 rest
      let (minute, after) ← fixed 2 (← mark ':' after)
      if 23 < hour ∨ 59 < minute then none
      let sign := if hour = 0 ∧ minute = 0 then '+' else sign
      return (sign :: rest.take 5, after)
    else some ([], cs)
  | [] => some ([], [])

/-- The normal form of a date, a time or both. -/
def normalize? (cs : List Char) : Option (List Char) := do
  if (cs.takeWhile (·.isDigit)).length = 2 then
    let (text, rest) ← time cs
    if rest.isEmpty then some text else none
  else
    let (day, rest) ← date cs
    match rest with
    | [] => some day
    | separator :: rest =>
      if separator ≠ 'T' ∧ separator ≠ 't' ∧ separator ≠ ' ' then none
      let (clock, rest) ← time rest
      let (zone, rest) ← offset rest
      if rest.isEmpty then some (day ++ 'T' :: clock ++ zone) else none

end ConnectorProfiles.Toml.DateTime
