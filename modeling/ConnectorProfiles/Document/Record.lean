import ConnectorProfiles.Document.Basic

/-!
# Records in documents

A record is written as a mapping from field names to values or as the sequence of its values in
declaration order. Members of a mapping are judged in the order of the text: first whether the
field is known, then whether it came before, then its value. Fields that are missing are
reported last, in declaration order. In a sequence, fields may be missing from the end on only if
they have a default.
-/

namespace ConnectorProfiles

/-- A field: its name, how its value is read, and its value where the field is missing. -/
structure Field (α : Type) where
  name : String
  read : Document → Read α
  default : Option α

/-- A field without the type of its value. -/
structure FieldCheck where
  name : String
  check : Document → Read Unit
  required : Bool

/-- Forgets the value that a field reads. -/
def Field.erase {α : Type} (field : Field α) : FieldCheck :=
  ⟨field.name, fun document ↦ (fun _ ↦ ()) <$> field.read document, field.default.isNone⟩

/-- The fields of a record in declaration order, and whether it refuses further members. -/
structure RecordShape where
  title : String
  fields : List FieldCheck
  refusesUnknown : Bool

namespace RecordShape

/-- The names of the fields in declaration order. -/
def names (shape : RecordShape) : List String := shape.fields.map (·.name)

/-- Judges members in the order of the text, given the fields that came before. -/
def checkMembers (shape : RecordShape) : List String → List (String × Document) → Read Unit
  | _, [] => return ()
  | seen, (key, value) :: rest =>
    match shape.fields.find? (·.name == key) with
    | none => do
      if shape.refusesUnknown then throw (.misfit (.unknownField key shape.names))
      value.skip
      shape.checkMembers seen rest
    | some field => do
      if key ∈ seen then throw (.misfit (.duplicateField key))
      field.check value
      shape.checkMembers (key :: seen) rest

/-- Judges the items of a sequence against the fields from position `index` on. -/
def checkItems (shape : RecordShape) (ending : Ending) :
    Nat → List FieldCheck → List Document → Read Unit
  | _, [], [] => ending.check
  | _, [], _ :: _ => if ending = .lax then return () else throw .malformed
  | index, field :: fields, [] => do
    ending.check
    if field.required then
      throw (.misfit (.tooFewItems index shape.title shape.fields.length))
    shape.checkItems ending (index + 1) fields []
  | index, field :: fields, item :: items => do
    field.check item
    shape.checkItems ending (index + 1) fields items

/-- The values that a document gives to the fields of a record. -/
def values (shape : RecordShape) : Document → Read (List (String × Document))
  | .mapping members ending => do
    shape.checkMembers [] members
    ending.check
    return members
  | .sequence items ending => do
    shape.checkItems ending 0 shape.fields items
    return shape.names.zip items
  | other => throw (other.mismatch (.record shape.title))

end RecordShape

/-- The value of a field among given values. -/
def Field.get {α : Type} (field : Field α) (values : List (String × Document)) : Read α :=
  match findEntry field.name values, field.default with
  | some value, _ => field.read value
  | none, some value => return value
  | none, none => throw (.misfit (.missingField field.name))

end ConnectorProfiles
