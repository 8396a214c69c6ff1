import ConnectorProfiles.Document.Fault
import ConnectorProfiles.Json.Basic

/-!
# Documents

A document is data as a reader meets it: a tree of nulls, truth values, numbers, texts, sequences
and mappings, in the order of the text. It also says where the text goes wrong, so that whatever
stands before that place can be judged first. Every notation delivers its texts in this form, and
every decoder starts from it.
-/

namespace ConnectorProfiles

/-- How a sequence or a mapping ends. -/
inductive Ending where
  /-- Closed; a record written as a sequence may have no further items. -/
  | strict
  /-- Closed; items beyond the fields of a record are passed over. -/
  | lax
  /-- Closed, but some later part has no value; it may only be passed over. -/
  | unusable
  /-- The text is malformed from here on. -/
  | broken
  deriving DecidableEq

/-- Data in the order of its text; keys may repeat. -/
inductive Document where
  | null
  | bool (value : Bool)
  | integer (value : Int)
  | real (value : Decimal.Double)
  | string (value : String)
  | sequence (items : List Document) (ending : Ending)
  | mapping (members : List (String × Document)) (ending : Ending)
  /-- Well formed, but without a value: a fault as soon as the value is asked for. -/
  | unusable (fault : Fault)
  /-- The text is malformed from here on. -/
  | broken

namespace Document

/-- The fault of a document that should be something else. -/
def mismatch (expected : Expected) : Document → Fault
  | .null => .misfit (.invalidType .null expected)
  | .bool value => .misfit (.invalidType (.bool value) expected)
  | .integer value => .misfit (.invalidType (.integer value) expected)
  | .real value => .misfit (.invalidType (.real value) expected)
  | .string value => .misfit (.invalidType (.string value) expected)
  | .sequence _ _ => .misfit (.invalidType .sequence expected)
  | .mapping _ _ => .misfit (.invalidType .mapping expected)
  | .unusable fault => fault
  | .broken => .malformed

end Document

/-- A sequence or mapping whose parts are asked for must be closed and usable. -/
def Ending.check : Ending → Read Unit
  | .strict | .lax => .ok ()
  | .unusable | .broken => .error .malformed

namespace Document

mutual

/-- Passes over a document without asking for its value: it need only be well formed. -/
def skip : Document → Read Unit
  | .sequence items ending => do
    skipItems items
    if ending = .broken then throw .malformed
  | .mapping members ending => do
    skipMembers members
    if ending = .broken then throw .malformed
  | .broken => throw .malformed
  | _ => return ()

/-- Passes over every item. -/
def skipItems : List Document → Read Unit
  | [] => return ()
  | item :: rest => do
    item.skip
    skipItems rest

/-- Passes over the value of a member. -/
def skipMember : String × Document → Read Unit
  | (_, value) => value.skip

/-- Passes over every member. -/
def skipMembers : List (String × Document) → Read Unit
  | [] => return ()
  | member :: rest => do
    skipMember member
    skipMembers rest

end

mutual

/-- The JSON value of a document with at most `depth` nested sequences and mappings. -/
def toJson : Nat → Document → Read Json
  | _, .null => return .null
  | _, .bool value => return .bool value
  | _, .integer value => return .number (.integer value)
  | _, .real (.finite value) => return .number (.real value)
  | _, .string value => return .string value
  | depth, .sequence items ending =>
    match depth with
    | 0 => throw .malformed
    | depth + 1 => do
      let items ← itemsToJson depth items
      ending.check
      return .array items
  | depth, .mapping members ending =>
    match depth with
    | 0 => throw .malformed
    | depth + 1 => do
      let members ← membersToJson depth members
      ending.check
      return .object members
  | _, .unusable fault => throw fault
  | _, _ => throw .malformed

/-- The JSON values of items. -/
def itemsToJson : Nat → List Document → Read (List Json)
  | _, [] => return []
  | depth, item :: rest => do
    let item ← item.toJson depth
    return item :: (← itemsToJson depth rest)

/-- The JSON value of a member. -/
def memberToJson : Nat → String × Document → Read (String × Json)
  | depth, (key, value) => do
    return (key, ← value.toJson depth)

/-- The JSON values of members. -/
def membersToJson : Nat → List (String × Document) → Read (List (String × Json))
  | _, [] => return []
  | depth, member :: rest => do
    let member ← memberToJson depth member
    return member :: (← membersToJson depth rest)

end

/-- A text. -/
def text : Document → Read String
  | .string value => .ok value
  | other => .error (other.mismatch .string)

/-- Nothing for null, otherwise a value. -/
def optional {α : Type} (read : Document → Read α) : Document → Read (Option α)
  | .null => .ok none
  | other => some <$> read other

/-- Every item of a sequence. -/
def listOf {α : Type} (read : Document → Read α) : Document → Read (List α)
  | .sequence items ending => do
    let values ← items.mapM read
    ending.check
    return values
  | other => .error (other.mismatch .sequence)

/-- Every member of a mapping; the last value of a repeated key stays. -/
def mapOf {α : Type} (read : Document → Read α) : Document → Read (NameMap α)
  | .mapping members ending => do
    let entries ← members.mapM fun member ↦ return (member.1, ← read member.2)
    ending.check
    return NameMap.ofList entries
  | other => .error (other.mismatch .mapping)

end Document

end ConnectorProfiles
