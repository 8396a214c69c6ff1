import ConnectorProfiles.Toml.Scalar

/-!
# TOML texts

Texts in double quotes have escapes, texts in single quotes have none. Between three quotes a text
may span lines: a line end right after the opening quotes is dropped, every other one reads as a
line feed, and up to two quotes may stand inside, also right before the closing ones.
-/

namespace ConnectorProfiles.Toml

/-- Drops blanks and tabs. -/
def skipBlanks (cs : List Char) : List Char := cs.dropWhile fun c ↦ c = ' ' || c = '\t'

/-- What follows a line end, if one stands here; a carriage return needs its line feed. -/
def lineEnd? : List Char → Option (List Char)
  | '\n' :: rest | '\r' :: '\n' :: rest => some rest
  | _ => none

/-- Whether a character may stand as it is within a line. -/
def isPlain (c : Char) : Bool := c = '\t' || (0x20 ≤ c.toNat && c.toNat ≠ 0x7f)

/-- The character of an escape of one letter. -/
def letterEscape? : Char → Option Char
  | '"' => some '"'
  | '\\' => some '\\'
  | 'b' => some '\x08'
  | 'e' => some '\x1b'
  | 'f' => some '\x0c'
  | 'n' => some '\n'
  | 'r' => some '\r'
  | 't' => some '\t'
  | _ => none

/-- The character of a code point, which is no surrogate. -/
def charOf? (n : Nat) : Option Char :=
  if n < 0xd800 ∨ (0xe000 ≤ n ∧ n < 0x110000) then some (Char.ofNat n) else none

/-- The number of hexadecimal digits after the letter of an escape by code point. -/
def codeLength : Char → Nat
  | 'x' => 2
  | 'u' => 4
  | 'U' => 8
  | _ => 0

/-- The character of an escape and what follows it, after the backslash. -/
def escape? : List Char → Option (Char × List Char)
  | [] => none
  | c :: rest =>
    match codeLength c with
    | 0 => do return (← letterEscape? c, rest)
    | n => do
      let digits := rest.take n
      if digits.length ≠ n then none
      return (← charOf? (← natIn? 16 digits), rest.drop n)

/-- The rest of a text in double quotes; every step takes at least one character. -/
def basicBody : Nat → List Char → Option (List Char × List Char)
  | 0, _ | _, [] => none
  | fuel + 1, c :: rest =>
    if c = '"' then some ([], rest)
    else if c = '\\' then do
      let (char, rest) ← escape? rest
      let (tail, rest) ← basicBody fuel rest
      return (char :: tail, rest)
    else if isPlain c then do
      let (tail, rest) ← basicBody fuel rest
      return (c :: tail, rest)
    else none

/-- The rest of a text in single quotes. -/
def literalBody : List Char → Option (List Char × List Char)
  | [] => none
  | c :: rest =>
    if c = '\'' then some ([], rest)
    else if isPlain c then do
      let (tail, rest) ← literalBody rest
      return (c :: tail, rest)
    else none

/-- Drops blanks, tabs and line ends. -/
def skipLines : List Char → List Char
  | '\r' :: '\n' :: rest => skipLines rest
  | c :: rest => if c = ' ' ∨ c = '\t' ∨ c = '\n' then skipLines rest else c :: rest
  | [] => []

/-- The closing quotes of a text over lines, and up to two quotes before them that belong to it. -/
def closing? (quote : Char) (cs : List Char) : Option (List Char × List Char) :=
  let run := (cs.takeWhile (· = quote)).length
  if run < 3 then none
  else
    let extra := min (run - 3) 2
    some (List.replicate extra quote, cs.drop (extra + 3))

/-- The rest of a text over lines; in double quotes, a backslash at the end of a line drops the
blanks and line ends up to the next other character. -/
def linesBody (quote : Char) : Nat → List Char → Option (List Char × List Char)
  | 0, _ | _, [] => none
  | fuel + 1, c :: rest =>
    match closing? quote (c :: rest) with
    | some found => some found
    | none =>
      if c = '\\' ∧ quote = '"' then
        if (lineEnd? (skipBlanks rest)).isSome then linesBody quote fuel (skipLines rest)
        else do
          let (char, rest) ← escape? rest
          let (tail, rest) ← linesBody quote fuel rest
          return (char :: tail, rest)
      else
        match lineEnd? (c :: rest) with
        | some rest => do
          let (tail, rest) ← linesBody quote fuel rest
          return ('\n' :: tail, rest)
        | none =>
          if isPlain c then do
            let (tail, rest) ← linesBody quote fuel rest
            return (c :: tail, rest)
          else none

/-- A text on one line, in either kind of quotes. -/
def lineText? : List Char → Option (String × List Char)
  | '"' :: rest => do
    let (chars, rest) ← basicBody (rest.length + 1) rest
    return (String.ofList chars, rest)
  | '\'' :: rest => do
    let (chars, rest) ← literalBody rest
    return (String.ofList chars, rest)
  | _ => none

/-- A text after its three opening quotes. -/
def linesText? (quote : Char) (cs : List Char) : Option (String × List Char) := do
  let cs := (lineEnd? cs).getD cs
  let (chars, rest) ← linesBody quote (cs.length + 1) cs
  return (String.ofList chars, rest)

/-- A text in any quotes. -/
def text? : List Char → Option (String × List Char)
  | '"' :: '"' :: '"' :: rest => linesText? '"' rest
  | '\'' :: '\'' :: '\'' :: rest => linesText? '\'' rest
  | cs => lineText? cs

end ConnectorProfiles.Toml
