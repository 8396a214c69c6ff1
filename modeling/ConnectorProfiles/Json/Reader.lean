import ConnectorProfiles.Document.Basic
import ConnectorProfiles.Json.Numeral

/-!
# Reading JSON text

A JSON text becomes a document: the tree of the text as far as it is well formed. Numbers out of
range and escapes of lone surrogates are well formed but have no value, so they may be passed over
and not be asked for.
-/

namespace ConnectorProfiles.JsonText

/-- A part of a text and what follows it; nothing follows where the text is malformed. -/
abbrev Scanned (α : Type) := α × Option (List Char)

/-- Drops blanks, tabs and line ends. -/
def skipSpace (cs : List Char) : List Char :=
  cs.dropWhile fun c ↦ c = ' ' || c = '\t' || c = '\n' || c = '\r'

/-- The value of a decimal digit. -/
def digit? (c : Char) : Option Nat :=
  if c.isDigit then some (c.toNat - 48) else none

/-- The longest run of decimal digits. -/
def digits : List Char → List Nat × List Char
  | [] => ([], [])
  | c :: rest =>
    match digit? c with
    | some value => let (more, rest) := digits rest; (value :: more, rest)
    | none => ([], c :: rest)

/-- At least one digit. -/
def someDigits (cs : List Char) : Option (List Nat × List Char) :=
  match digits cs with
  | ([], _) => none
  | found => some found

/-- The natural that decimal digits denote. -/
def natOfDigits (ds : List Nat) : Nat := ds.foldl (fun n d ↦ n * 10 + d) 0

/-- The fraction of a numeral, if one stands here. -/
def fraction : List Char → Option (List Nat × List Char)
  | '.' :: rest => someDigits rest
  | cs => some ([], cs)

/-- The exponent of a numeral, if one stands here. -/
def exponent (cs : List Char) : Option (Option Int × List Char) :=
  let unsigned (sign : Int) (cs : List Char) : Option (Option Int × List Char) := do
    let (ds, rest) ← someDigits cs
    return (some (sign * natOfDigits ds), rest)
  match cs with
  | c :: rest =>
    if c = 'e' || c = 'E' then
      match rest with
      | '+' :: rest => unsigned 1 rest
      | '-' :: rest => unsigned (-1) rest
      | rest => unsigned 1 rest
    else some (none, cs)
  | [] => some (none, [])

/-- A numeral; no digit follows a leading zero. -/
def numeral (negative : Bool) (cs : List Char) : Option (Numeral × List Char) := do
  let (integer, rest) ← someDigits cs
  if integer.head? = some 0 ∧ integer.length ≠ 1 then none
  let (fraction, rest) ← fraction rest
  let (exponent, rest) ← exponent rest
  return (⟨negative, integer, fraction, exponent⟩, rest)

/-- A number as a document. -/
def number (negative : Bool) (cs : List Char) : Scanned Document :=
  match numeral negative cs with
  | none => (.broken, none)
  | some (n, rest) =>
    (match n.toNumber? with
      | some (.integer value) => .integer value
      | some (.real value) => .real (.finite value)
      | none => .unusable .malformed, some rest)

/-- The value of a hexadecimal digit. -/
def hexDigit? (c : Char) : Option Nat :=
  if c.isDigit then some (c.toNat - 48)
  else if 'a' ≤ c ∧ c ≤ 'f' then some (c.toNat - 87)
  else if 'A' ≤ c ∧ c ≤ 'F' then some (c.toNat - 55)
  else none

/-- The 16-bit unit of four hexadecimal digits. -/
def unit? (a b c d : Char) : Option Nat := do
  return (← hexDigit? a) * 4096 + (← hexDigit? b) * 256 + (← hexDigit? c) * 16 + (← hexDigit? d)

/-- The character of an escape of one letter. -/
def escape? : Char → Option Char
  | '"' => some '"'
  | '\\' => some '\\'
  | '/' => some '/'
  | 'b' => some '\x08'
  | 'f' => some '\x0c'
  | 'n' => some '\n'
  | 'r' => some '\r'
  | 't' => some '\t'
  | _ => none

/-- The rest of a text after its opening quote: the characters, or nothing among them where an
escape of a lone surrogate occurs, and what follows the closing quote. -/
def stringBody : List Char → Option (Option (List Char) × List Char)
  | [] => none
  | '"' :: rest => some (some [], rest)
  | '\\' :: 'u' :: a :: b :: c :: d :: rest => do
    let high ← unit? a b c d
    if high < 0xd800 ∨ 0xe000 ≤ high then
      let (tail, rest) ← stringBody rest
      return (tail.map (Char.ofNat high :: ·), rest)
    let lone : Option (Option (List Char) × List Char) := do
      let (_, rest) ← stringBody rest
      return (none, rest)
    if 0xdc00 ≤ high then lone
    else
      match rest with
      | '\\' :: 'u' :: a :: b :: c :: d :: after =>
        let low ← unit? a b c d
        if low < 0xdc00 ∨ 0xe000 ≤ low then lone
        else
          let (tail, rest) ← stringBody after
          return (tail.map (Char.ofNat (0x10000 + (high - 0xd800) * 1024 + (low - 0xdc00)) :: ·),
            rest)
      | _ => lone
  | '\\' :: c :: rest => do
    let char ← escape? c
    let (tail, rest) ← stringBody rest
    return (tail.map (char :: ·), rest)
  | c :: rest =>
    if c.toNat < 0x20 ∨ c = '\\' then none
    else do
      let (tail, rest) ← stringBody rest
      return (tail.map (c :: ·), rest)

/-- A word, as one of the three literal values. -/
def literal (word : List Char) (value : Document) (cs : List Char) : Scanned Document :=
  if word.isPrefixOf cs then (value, some (cs.drop word.length)) else (.broken, none)

mutual

/-- A value with the blanks before it. -/
def value : Nat → List Char → Scanned Document
  | 0, _ => (.broken, none)
  | fuel + 1, cs =>
    match skipSpace cs with
    | [] => (.broken, none)
    | '[' :: rest =>
      match skipSpace rest with
      | ']' :: rest => (.sequence [] .strict, some rest)
      | rest =>
        let (found, ending, rest) := items fuel rest
        (.sequence found ending, rest)
    | '\x7b' :: rest =>
      match skipSpace rest with
      | '\x7d' :: rest => (.mapping [] .strict, some rest)
      | rest =>
        let (found, ending, rest) := members fuel rest
        (.mapping found ending, rest)
    | '"' :: rest =>
      match stringBody rest with
      | none => (.broken, none)
      | some (none, rest) => (.unusable .malformed, some rest)
      | some (some chars, rest) => (.string (String.ofList chars), some rest)
    | '-' :: rest => number true rest
    | c :: rest =>
      if c = 'n' then literal ['u', 'l', 'l'] .null rest
      else if c = 't' then literal ['r', 'u', 'e'] (.bool true) rest
      else if c = 'f' then literal ['a', 'l', 's', 'e'] (.bool false) rest
      else number false (c :: rest)

/-- The items of a sequence up to its closing bracket. -/
def items : Nat → List Char → List Document × Ending × Option (List Char)
  | 0, _ => ([], .broken, none)
  | fuel + 1, cs =>
    match value fuel cs with
    | (item, none) => ([item], .broken, none)
    | (item, some rest) =>
      match skipSpace rest with
      | ']' :: rest => ([item], .strict, some rest)
      | ',' :: rest =>
        match skipSpace rest with
        | ']' :: _ => ([item], .broken, none)
        | rest =>
          let (more, ending, rest) := items fuel rest
          (item :: more, ending, rest)
      | _ => ([item], .broken, none)

/-- The members of a mapping up to its closing brace. -/
def members : Nat → List Char → List (String × Document) × Ending × Option (List Char)
  | 0, _ => ([], .broken, none)
  | fuel + 1, cs =>
    match skipSpace cs with
    | '"' :: rest =>
      match stringBody rest with
      | none => ([], .broken, none)
      | some (key, rest) =>
        let (found, ending, rest) : List (String × Document) × Ending × Option (List Char) :=
          let entry (v : Document) : List (String × Document) :=
            match key with
            | some chars => [(String.ofList chars, v)]
            | none => []
          match skipSpace rest with
          | ':' :: rest =>
            match value fuel rest with
            | (v, none) => (entry v, .broken, none)
            | (v, some rest) =>
              match skipSpace rest with
              | '\x7d' :: rest => (entry v, .strict, some rest)
              | ',' :: rest =>
                let (more, ending, rest) := members fuel rest
                (entry v ++ more, ending, rest)
              | _ => (entry v, .broken, none)
          | _ => (entry .broken, .broken, none)
        match key, ending with
        | none, .broken => ([], .broken, rest)
        | none, _ => ([], .unusable, rest)
        | some _, ending => (found, ending, rest)
    | _ => ([], .broken, none)

end

/-- A whole text: its value, and whether anything but blanks follows it. -/
structure Scan where
  root : Document
  trailing : Bool

/-- Reads a JSON text as far as it is well formed. -/
def scan (text : String) : Scan :=
  let cs := text.toList
  match value (2 * cs.length + 2) cs with
  | (root, none) => ⟨root, true⟩
  | (root, some rest) => ⟨root, !(skipSpace rest).isEmpty⟩

/-- Decodes a JSON text. What its value lacks is reported before what follows the value. -/
def decode {α : Type} (read : Document → Read α) (text : String) : Read α := do
  let scan := scan text
  let result ← read scan.root
  if scan.trailing then throw .malformed
  return result

/-- The most sequences and mappings that may be nested where a value is kept as it is. -/
def maxDepth : Nat := 127

/-- The JSON value of a text. -/
def parse (text : String) : Read Json := decode (Document.toJson maxDepth) text

end ConnectorProfiles.JsonText
