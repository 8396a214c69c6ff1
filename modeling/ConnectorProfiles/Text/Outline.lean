import ConnectorProfiles.Text.Quoted

/-!
# Outlines

A debug text shows a value as an outline of records, lists and texts, on one line or with one part
on each line. An open record says that it has parts which are not shown.
-/

namespace ConnectorProfiles.Text

/-- The shape of a debug text. -/
inductive Outline where
  | text (value : String)
  | list (items : List Outline)
  /-- A record with one field, and whether it has parts that are not shown. -/
  | record (title field : String) (value : Outline) (isOpen : Bool)

namespace Outline

mutual

/-- The outline on one line. -/
def line : Outline → String
  | .text value => quote value
  | .list items => "[" ++ ", ".intercalate (lines items) ++ "]"
  | .record title field value isOpen =>
    title ++ " \x7b " ++ field ++ ": " ++ value.line ++ (if isOpen then ", .. \x7d" else " \x7d")

/-- Every item on one line. -/
def lines : List Outline → List String
  | [] => []
  | item :: rest => item.line :: lines rest

end

/-- The blanks before a part at the given depth. -/
def indent (depth : Nat) : String := String.ofList (List.replicate (4 * depth) ' ')

mutual

/-- The outline with one part on each line, its first line without indentation. -/
def block (depth : Nat) : Outline → String
  | .text value => quote value
  | .list items =>
    if items.isEmpty then "[]"
    else "[\n" ++ String.join (blocks (depth + 1) items) ++ indent depth ++ "]"
  | .record title field value isOpen =>
    title ++ " \x7b\n" ++ indent (depth + 1) ++ field ++ ": " ++ value.block (depth + 1) ++ ",\n" ++
      (if isOpen then indent (depth + 1) ++ "..\n" else "") ++ indent depth ++ "\x7d"

/-- Every item on lines of its own. -/
def blocks (depth : Nat) : List Outline → List String
  | [] => []
  | item :: rest => (indent depth ++ item.block depth ++ ",\n") :: blocks depth rest

end

end Outline

end ConnectorProfiles.Text
