import ConnectorProfiles.Document.Basic
import ConnectorProfiles.Toml.Text

/-!
# Reading TOML text

A TOML text is read as a whole before anything in it is judged: it either is well formed and
yields its table, or it is not. The table then becomes a document whose members ascend by key.
-/

namespace ConnectorProfiles.Toml

/-- The most arrays and inline tables that may be nested. -/
def maxDepth : Nat := 80

/-- Drops a comment up to the end of its line. -/
def skipComment : List Char → List Char
  | '#' :: rest => rest.dropWhile isPlain
  | cs => cs

/-- Drops blanks, line ends and comments. -/
def skipGaps : Nat → List Char → List Char
  | 0, cs => cs
  | fuel + 1, cs =>
    let cs := skipComment (skipBlanks cs)
    match lineEnd? cs with
    | some rest => skipGaps fuel rest
    | none => cs

/-- One part of a key. -/
def keyPart? (cs : List Char) : Option (String × List Char) :=
  match cs with
  | '"' :: _ | '\'' :: _ => lineText? cs
  | _ =>
    let run := cs.takeWhile fun c ↦ c.isAlphanum || c = '-' || c = '_'
    if run.isEmpty then none else some (String.ofList run, cs.drop run.length)

/-- The parts of a key between dots, and what follows it and the blanks after it. -/
def key? : Nat → List Char → Option (String × List String × List Char)
  | 0, _ => none
  | fuel + 1, cs => do
    let (first, rest) ← keyPart? (skipBlanks cs)
    match skipBlanks rest with
    | '.' :: rest =>
      let (second, more, rest) ← key? fuel rest
      return (first, second :: more, rest)
    | rest => return (first, [], rest)

/-- The characters of values without quotes. -/
def isScalarChar (c : Char) : Bool :=
  c.isAlphanum || c = '+' || c = '-' || c = '_' || c = '.' || c = ':'

/-- Whether a run of characters is shaped like a date. -/
def isDateShaped (cs : List Char) : Bool := cs.length = 10 && (DateTime.date cs).isSome

/-- A value without quotes; a single blank may stand between a date and its time. -/
def scalarRun (cs : List Char) : List Char × List Char :=
  let run := cs.takeWhile isScalarChar
  let rest := cs.drop run.length
  match rest with
  | ' ' :: digit :: _ =>
    if isDateShaped run && digit.isDigit then
      let clock := (rest.drop 1).takeWhile isScalarChar
      (run ++ ' ' :: clock, rest.drop (clock.length + 1))
    else (run, rest)
  | _ => (run, rest)

mutual

/-- A value, inside at most `depth` further arrays and inline tables. -/
def value? : Nat → Nat → List Char → Option (Value × List Char)
  | 0, _, _ => none
  | fuel + 1, depth, cs =>
    match cs with
    | '"' :: _ | '\'' :: _ => do
      let (text, rest) ← text? cs
      return (.string text, rest)
    | '[' :: rest =>
      if depth = 0 then none
      else do
        let (found, rest) ← items? fuel (depth - 1) rest
        return (.array found, rest)
    | '\x7b' :: rest =>
      if depth = 0 then none
      else do
        let (entries, rest) ← inline? fuel (depth - 1) [] rest
        return (.table .inlined entries, rest)
    | _ => do
      let (run, rest) := scalarRun cs
      return (← scalar? run, rest)

/-- The items of an array up to its closing bracket. -/
def items? : Nat → Nat → List Char → Option (List Value × List Char)
  | 0, _, _ => none
  | fuel + 1, depth, cs =>
    match skipGaps cs.length cs with
    | ']' :: rest => some ([], rest)
    | cs => do
      let (item, rest) ← value? fuel depth cs
      match skipGaps rest.length rest with
      | ']' :: rest => return ([item], rest)
      | ',' :: rest =>
        let (more, rest) ← items? fuel depth rest
        return (item :: more, rest)
      | _ => none

/-- The entries of an inline table up to its closing brace, after those read before. -/
def inline? : Nat → Nat → Entries → List Char → Option (Entries × List Char)
  | 0, _, _, _ => none
  | fuel + 1, depth, entries, cs =>
    match skipGaps cs.length cs with
    | '\x7d' :: rest => some (entries, rest)
    | cs => do
      let (path, key, value, rest) ← pair? fuel depth cs
      let (_, entries) ← writeKey path key value .inlined entries
      match skipGaps rest.length rest with
      | '\x7d' :: rest => return (entries, rest)
      | ',' :: rest => inline? fuel depth entries rest
      | _ => none

/-- A key, an equals sign and a value: the key's path and last part, and the value. -/
def pair? : Nat → Nat → List Char → Option (List String × String × Value × List Char)
  | 0, _, _ => none
  | fuel + 1, depth, cs => do
    let (first, more, rest) ← key? (cs.length + 1) cs
    match rest with
    | '=' :: rest =>
      let (value, rest) ← value? fuel depth (skipBlanks rest)
      let (path, key) := splitLast first more
      return (path, key, value, rest)
    | _ => none

end

/-- A text as far as it is read: the table of the last header, and the whole table. -/
structure Progress where
  header : List String
  entries : Entries

/-- Changes the whole table. -/
def Progress.change (p : Progress) (f : Origin → Entries → Option (Origin × Entries)) :
    Option Progress := do
  let (_, entries) ← f .header p.entries
  return { p with entries }

/-- What is left of a line after its content: blanks and a comment. -/
def endOfLine? (cs : List Char) : Option (List Char) :=
  match skipComment (skipBlanks cs) with
  | [] => some []
  | cs => lineEnd? cs

/-- Reads one line or, where a value spans lines, several. -/
def line? (p : Progress) (cs : List Char) : Option (Progress × List Char) :=
  match skipBlanks cs with
  | '[' :: '[' :: rest => do
    let (first, more, rest) ← key? (rest.length + 1) rest
    let (path, key) := splitLast first more
    match rest with
    | ']' :: ']' :: rest =>
      let p ← p.change (openItem path key)
      return ({ p with header := first :: more }, ← endOfLine? rest)
    | _ => none
  | '[' :: rest => do
    let (first, more, rest) ← key? (rest.length + 1) rest
    let (path, key) := splitLast first more
    match rest with
    | ']' :: rest =>
      let p ← p.change (openTable path key)
      return ({ p with header := first :: more }, ← endOfLine? rest)
    | _ => none
  | cs =>
    match endOfLine? cs with
    | some rest => some (p, rest)
    | none => do
      let (path, key, value, rest) ← pair? (2 * cs.length + 2) maxDepth cs
      let p ← p.change (writeUnder p.header path key value)
      return (p, ← endOfLine? rest)

/-- Reads lines up to the end of the text. -/
def lines? : Nat → Progress → List Char → Option Entries
  | _, p, [] => some p.entries
  | 0, _, _ => none
  | fuel + 1, p, cs => do
    let (p, rest) ← line? p cs
    lines? fuel p rest

/-- The entries of a whole text; a byte order mark before it is dropped. -/
def parse? (text : String) : Option Entries :=
  let cs := match text.toList with
    | '\ufeff' :: rest => rest
    | cs => cs
  lines? (cs.length + 1) ⟨[], []⟩ cs

/-- The only member of the mapping by which a date or time shows in a document. -/
def dateTimeKey : String := "$__toml_private_datetime"

mutual

/-- The document of a value: members ascend by key, and a number out of range has no value. -/
def Value.toDocument : Value → Document
  | .string value => .string value
  | .integer (some value) => .integer value
  | .integer none => .unusable (.misfit .integerOverflow)
  | .real (some value) => .real value
  | .real none => .unusable (.misfit .realOverflow)
  | .bool value => .bool value
  | .dateTime text => .mapping [(dateTimeKey, .string text)] .lax
  | .array items => .sequence (documents items) .lax
  | .tables last before => .sequence ((documents before).reverse ++ [last.toDocument]) .lax
  | .table _ entries => .mapping (NameMap.ofList (members entries)).entries .lax

/-- The documents of items. -/
def documents : List Value → List Document
  | [] => []
  | item :: rest => item.toDocument :: documents rest

/-- The member of an entry. -/
def member : String × Value → String × Document
  | (key, value) => (key, value.toDocument)

/-- The members of entries. -/
def members : List (String × Value) → List (String × Document)
  | [] => []
  | entry :: rest => member entry :: members rest

end

/-- Decodes a TOML text. -/
def decode {α : Type} (read : Document → Read α) (text : String) : Read α :=
  match parse? text with
  | none => throw .malformed
  | some entries => read (Value.table .header entries).toDocument

end ConnectorProfiles.Toml
