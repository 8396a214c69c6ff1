import ConnectorProfiles.Decimal.Binary64

/-!
# TOML tables

The values of a TOML text and the rules by which keys and headers fill its tables. A table is made
by a header, by a longer header that passes through it, by dotted keys, or inline. Each can be
added to in some ways only: a header may open a table that was passed through before, dotted keys
may add to tables made by dotted keys, and an inline table is complete.
-/

namespace ConnectorProfiles.Toml

/-- How a table came about. -/
inductive Origin where
  /-- Opened by its own header; the whole text is such a table too. -/
  | header
  /-- Passed through by a longer header. -/
  | passed
  /-- Made by dotted keys. -/
  | dotted
  /-- Written inline. -/
  | inlined
  deriving DecidableEq

/-- A value. Numbers that are out of range are kept without their value. -/
inductive Value where
  | string (value : String)
  | integer (value : Option Int)
  | real (value : Option Decimal.Double)
  | bool (value : Bool)
  /-- A date, a time or both, in its normal form. -/
  | dateTime (text : String)
  | array (items : List Value)
  /-- The tables of an array that is filled by headers, the last one first. -/
  | tables (last : Value) (before : List Value)
  | table (origin : Origin) (entries : List (String × Value))
  deriving Inhabited

/-- The entries of a table in the order of their keys' first writing. -/
abbrev Entries := List (String × Value)

/-- The value under a key. -/
def Entries.get? (entries : Entries) (key : String) : Option Value :=
  (entries.find? (·.1 == key)).map (·.2)

/-- Replaces the value under a key that is there. -/
def Entries.replace (entries : Entries) (key : String) (value : Value) : Entries :=
  entries.map fun entry ↦ if entry.1 == key then (key, value) else entry

/-- Changes the table at the end of a path. Missing tables on the way are made with the given
origin; an array filled by headers is entered at its last table. -/
def changeAt (made : Origin) (change : Origin → Entries → Option (Origin × Entries)) :
    List String → Origin → Entries → Option (Origin × Entries)
  | [], origin, entries => change origin entries
  | key :: path, origin, entries =>
    match entries.get? key with
    | none => do
      let (o, inner) ← changeAt made change path made []
      return (origin, entries ++ [(key, .table o inner)])
    | some (.table o inner) =>
      if o = .inlined ∨ (made = .dotted ∧ o = .header) then none
      else do
        let (o, inner) ← changeAt made change path o inner
        return (origin, entries.replace key (.table o inner))
    | some (.tables (.table o inner) before) => do
      let (o, inner) ← changeAt made change path o inner
      return (origin, entries.replace key (.tables (.table o inner) before))
    | some _ => none

/-- Splits a dotted key into the tables on its way and its last part. -/
def splitLast (first : String) : List String → List String × String
  | [] => ([], first)
  | second :: rest => let (path, last) := splitLast second rest; (first :: path, last)

/-- Writes a value under a dotted key. The key must be new, and a table on its way must be one
that dotted keys made. -/
def writeKey (path : List String) (key : String) (value : Value) :
    Origin → Entries → Option (Origin × Entries) :=
  changeAt .dotted (fun origin entries ↦
    if (origin = .dotted) = (path = []) then none
    else if (entries.get? key).isSome then none
    else some (origin, entries ++ [(key, value)])) path

/-- Opens the table of a header: a new one, or one that longer headers passed through. -/
def openTable (path : List String) (key : String) : Origin → Entries → Option (Origin × Entries) :=
  changeAt .passed (fun origin entries ↦
    match entries.get? key with
    | none => some (origin, entries ++ [(key, .table .header [])])
    | some (.table .passed inner) => some (origin, entries.replace key (.table .header inner))
    | some _ => none) path

/-- Opens a further table of an array that is filled by headers. -/
def openItem (path : List String) (key : String) : Origin → Entries → Option (Origin × Entries) :=
  changeAt .passed (fun origin entries ↦
    match entries.get? key with
    | none => some (origin, entries ++ [(key, .tables (.table .header []) [])])
    | some (.tables last before) =>
      some (origin, entries.replace key (.tables (.table .header []) (last :: before)))
    | some _ => none) path

/-- Writes a value under a dotted key into the table of a header. -/
def writeUnder (header path : List String) (key : String) (value : Value) :
    Origin → Entries → Option (Origin × Entries) :=
  changeAt .passed (writeKey path key value) header

end ConnectorProfiles.Toml
