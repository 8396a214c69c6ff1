import ConnectorProfiles.Decimal.Binary64
import ConnectorProfiles.NameMap

/-!
# JSON values

A JSON value with its object members in the order of the text, a repeated key kept. Two values
mean the same when their canonical forms are equal: there every key occurs once, with the last
value it was given, and the keys ascend.
-/

namespace ConnectorProfiles

/-- A number: an integer of 64 bits, signed or not, or any other number as a finite double. -/
inductive Number where
  | integer (value : Int)
  | real (value : Decimal.Binary64)
  deriving DecidableEq

/-- A JSON value; members stand in text order and keys may repeat. -/
inductive Json where
  | null
  | bool (value : Bool)
  | number (value : Number)
  | string (value : String)
  | array (items : List Json)
  | object (members : List (String × Json))
  deriving Inhabited

namespace Json

mutual

/-- Equality of values is decidable. -/
def decEq : (a b : Json) → Decidable (a = b)
  | .null, b => match b with
    | .null => isTrue rfl
    | .bool _ | .number _ | .string _ | .array _ | .object _ => isFalse nofun
  | .bool a, b => match b with
    | .bool b => decidable_of_iff (a = b) (by simp)
    | .null | .number _ | .string _ | .array _ | .object _ => isFalse nofun
  | .number a, b => match b with
    | .number b => decidable_of_iff (a = b) (by simp)
    | .null | .bool _ | .string _ | .array _ | .object _ => isFalse nofun
  | .string a, b => match b with
    | .string b => decidable_of_iff (a = b) (by simp)
    | .null | .bool _ | .number _ | .array _ | .object _ => isFalse nofun
  | .array a, b => match b with
    | .array b => match decEqItems a b with
      | isTrue h => isTrue (h ▸ rfl)
      | isFalse h => isFalse fun e ↦ h (by injection e)
    | .null | .bool _ | .number _ | .string _ | .object _ => isFalse nofun
  | .object a, b => match b with
    | .object b => match decEqMembers a b with
      | isTrue h => isTrue (h ▸ rfl)
      | isFalse h => isFalse fun e ↦ h (by injection e)
    | .null | .bool _ | .number _ | .string _ | .array _ => isFalse nofun

/-- Equality of items is decidable. -/
def decEqItems : (a b : List Json) → Decidable (a = b)
  | [], b => match b with
    | [] => isTrue rfl
    | _ :: _ => isFalse nofun
  | a :: as, b => match b with
    | [] => isFalse nofun
    | b :: bs => match decEq a b, decEqItems as bs with
      | isTrue h, isTrue k => isTrue (h ▸ k ▸ rfl)
      | isFalse h, _ => isFalse fun e ↦ h (by injection e)
      | _, isFalse k => isFalse fun e ↦ k (by injection e)

/-- Equality of one member is decidable. -/
def decEqMember : (a b : String × Json) → Decidable (a = b)
  | (j, a), (k, b) => match decEq a b with
    | isTrue h => decidable_of_iff (j = k) (by simp [h])
    | isFalse h => isFalse fun e ↦ h (by injection e)

/-- Equality of members is decidable. -/
def decEqMembers : (a b : List (String × Json)) → Decidable (a = b)
  | [], b => match b with
    | [] => isTrue rfl
    | _ :: _ => isFalse nofun
  | a :: as, b => match b with
    | [] => isFalse nofun
    | b :: bs => match decEqMember a b, decEqMembers as bs with
      | isTrue h, isTrue k => isTrue (h ▸ k ▸ rfl)
      | isFalse h, _ => isFalse fun e ↦ h (by injection e)
      | _, isFalse k => isFalse fun e ↦ k (by injection e)

end

instance : DecidableEq Json := decEq

mutual

/-- The value with every key once, the last value of a repeated key kept, and keys ascending. -/
def canonical : Json → Json
  | .array items => .array (canonicalItems items)
  | .object members => .object (NameMap.ofList (canonicalMembers members)).entries
  | value => value

/-- Every item in canonical form. -/
def canonicalItems : List Json → List Json
  | [] => []
  | item :: rest => item.canonical :: canonicalItems rest

/-- One member with its value in canonical form. -/
def canonicalMember : String × Json → String × Json
  | (key, value) => (key, value.canonical)

/-- Every member with its value in canonical form; order and repetitions stay. -/
def canonicalMembers : List (String × Json) → List (String × Json)
  | [] => []
  | member :: rest => canonicalMember member :: canonicalMembers rest

end

/-- The value of the last member under a key, for an object. -/
def member? (value : Json) (key : String) : Option Json :=
  match value with
  | .object members => (members.reverse.find? fun member ↦ member.1 == key).map (·.2)
  | _ => none

/-- The text, for a string. -/
def string? : Json → Option String
  | .string value => some value
  | _ => none

end Json

end ConnectorProfiles
