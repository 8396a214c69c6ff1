/-!
# Labels in plain letters

A label of any characters is written with plain letters, digits and hyphens: first its plain
characters, then a row of numbers that say where its other characters go. The characters are put
in by ascending code point and then from left to right, so each number only counts how many places
were passed since the character before it. The numbers are written to base 36 with their low digits
first; a digit below its threshold is the last one, and the thresholds follow the size of the
number before.
-/

namespace ConnectorProfiles.Url.Domain

/-- Whether a character is plain. -/
def isPlain (c : Char) : Bool := c.toNat < 0x80

/-- The digit that a character stands for: letters first, then the decimal digits. -/
def digitValue? (c : Char) : Option Nat :=
  if 'a' ≤ c ∧ c ≤ 'z' then some (c.toNat - 97)
  else if 'A' ≤ c ∧ c ≤ 'Z' then some (c.toNat - 65)
  else if '0' ≤ c ∧ c ≤ '9' then some (c.toNat - 22)
  else none

/-- The character of a digit. -/
def digitChar (digit : Nat) : Char :=
  if digit < 26 then Char.ofNat (digit + 97) else Char.ofNat (digit + 22)

/-- The threshold of the digit at an index, under a bias. -/
def threshold (bias index : Nat) : Nat := max 1 (min 26 (36 * (index + 1) - bias))

/-- A threshold is a digit other than zero. -/
theorem threshold_bounds (bias index : Nat) :
    0 < threshold bias index ∧ threshold bias index ≤ 26 := by
  simp only [threshold]
  omega

/-- The digits of a number under a bias, from an index on. -/
def digits (bias index number : Nat) : List Char :=
  let limit := threshold bias index
  if number < limit then [digitChar number]
  else
    digitChar (limit + (number - limit) % (36 - limit)) ::
      digits bias (index + 1) ((number - limit) / (36 - limit))
termination_by number
decreasing_by
  have := threshold_bounds bias index
  exact Nat.lt_of_le_of_lt (Nat.div_le_self _ _) (by omega)

/-- Divides a number by 35 until it is at most 455; gives the times and what is left. -/
def shrink (number : Nat) : Nat × Nat :=
  if 455 < number then
    let (times, left) := shrink (number / 35)
    (times + 1, left)
  else (0, number)

/-- Where a row of numbers stands: the code point and the place to go on from, the number of
characters so far, the bias, and whether no number has come yet. -/
structure Cursor where
  code : Nat
  place : Nat
  size : Nat
  bias : Nat
  isFirst : Bool

namespace Cursor

/-- The cursor before the first number, after the given number of plain characters. -/
def start (size : Nat) : Cursor := ⟨0x80, 0, size, 72, true⟩

/-- The code point and the place that a number leads to. -/
def target (cursor : Cursor) (number : Nat) : Nat × Nat :=
  let passed := cursor.place + number
  (cursor.code + passed / (cursor.size + 1), passed % (cursor.size + 1))

/-- The number that leads to a code point and a place. -/
def distance (cursor : Cursor) (code place : Nat) : Nat :=
  (code - cursor.code) * (cursor.size + 1) + place - cursor.place

/-- The cursor after a number that led to a code point and a place. The first number weighs little
in the bias, as it spans the way from the plain characters. -/
def advance (cursor : Cursor) (number code place : Nat) : Cursor :=
  let damped := if cursor.isFirst then number / 700 else number / 2
  let (times, left) := shrink (damped + damped / (cursor.size + 1))
  ⟨code, place + 1, cursor.size + 1, 36 * times + 36 * left / (left + 38), false⟩

end Cursor

/-- The characters of a label that are not plain, from left to right, each with the number of
characters to its left that are put in before it. -/
def insertions (passed : List Char) : List Char → List (Char × Nat)
  | [] => []
  | c :: rest =>
    if isPlain c then insertions (c :: passed) rest
    else (c, passed.countP (· ≤ c)) :: insertions (c :: passed) rest

/-- The digits of all numbers of a label. -/
def encodeInsertions : Cursor → List (Char × Nat) → List Char
  | _, [] => []
  | cursor, (c, place) :: rest =>
    let number := cursor.distance c.toNat place
    digits cursor.bias 0 number ++
      encodeInsertions (cursor.advance number c.toNat place) rest

/-- Writes a label with plain characters only. -/
def encode (label : List Char) : List Char :=
  let plain := label.filter isPlain
  let others := (insertions [] label).mergeSort fun a b ↦ a.1 ≤ b.1
  plain ++ (if plain.isEmpty then [] else ['-']) ++
    encodeInsertions (.start plain.length) others

/-- What is known after a part of the digits: the characters put in so far, and of the number that
is being read its value, the weight of its next digit and the index of that digit. -/
structure Decoding where
  text : List Char
  cursor : Cursor
  number : Nat
  weight : Nat
  index : Nat

/-- Reads one more digit. -/
def Decoding.step? (state : Decoding) (c : Char) : Option Decoding := do
  let digit ← digitValue? c
  let number := state.number + digit * state.weight
  let limit := threshold state.cursor.bias state.index
  if digit < limit then
    let (code, place) := state.cursor.target number
    if code.isValidChar then
      some ⟨state.text.insertIdx place (Char.ofNat code), state.cursor.advance number code place,
        0, 1, 0⟩
    else none
  else some { state with number, weight := state.weight * (36 - limit), index := state.index + 1 }

/-- The plain characters of a written label, which end before its last hyphen, and its digits. -/
def plainAndDigits (written : List Char) : List Char × List Char :=
  let tail := (written.reverse.takeWhile (· ≠ '-')).reverse
  let plain := written.take (written.length - tail.length - 1)
  if plain.isEmpty then ([], written) else (plain, tail)

/-- Reads a label that is written with plain characters only. -/
def decode? (written : List Char) : Option (List Char) := do
  let (plain, tail) := plainAndDigits written
  let state ← tail.foldlM Decoding.step? ⟨plain, .start plain.length, 0, 1, 0⟩
  if state.index = 0 then some state.text else none

end ConnectorProfiles.Url.Domain
