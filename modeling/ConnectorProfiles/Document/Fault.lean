import ConnectorProfiles.Decimal.Shortest
import ConnectorProfiles.Decimal.Width
import ConnectorProfiles.Text.Quoted
import ConnectorProfiles.Url.Fault

/-!
# Faults of documents

Why a document could not be read as the value it should hold: its text is malformed, or it is
well formed and does not fit. Each misfit has one wording; only the layout of a real number in it
is left to the notation in which the document is written.
-/

namespace ConnectorProfiles

/-- The kind of value that stands where another was expected. -/
inductive Found where
  | null
  | bool (value : Bool)
  | integer (value : Int)
  | real (value : Decimal.Double)
  | string (value : String)
  | sequence
  | mapping
  deriving DecidableEq

/-- What is expected at a place of a document. -/
inductive Expected where
  | string
  | sequence
  | mapping
  | address
  | record (title : String)
  deriving DecidableEq

/-- How a well-formed document fails to fit. -/
inductive Misfit where
  | missingField (name : String)
  | duplicateField (name : String)
  | unknownField (name : String) (known : List String)
  | invalidType (found : Found) (expected : Expected)
  | tooFewItems (count : Nat) (title : String) (fields : Nat)
  | neitherOneNorMany
  | badAddress (fault : Url.Fault) (text : String)
  | integerOverflow
  | realOverflow
  deriving DecidableEq

/-- Why a document could not be read. -/
inductive Fault where
  | malformed
  | misfit (misfit : Misfit)
  deriving DecidableEq

/-- Reading part of a document. -/
abbrev Read := Except Fault

/-- The text of a double; a fraction is shown where no exponent is. -/
def realText (layout : Decimal.Layout) : Decimal.Double → String
  | .finite value => layout.text value
  | .infinity negative => if negative then "-inf" else "inf"
  | .nan => "NaN"

/-- An integer of more than 64 bits is named together with its width. -/
def integerText (value : Int) : String :=
  "integer `" ++ toString value ++ "`" ++
    (if Decimal.fitsSigned 64 value || Decimal.fitsUnsigned 64 value then ""
     else if Decimal.fitsSigned 128 value then " as i128"
     else " as u128")

/-- The wording of what was found. -/
def Found.text (layout : Decimal.Layout) : Found → String
  | .null => "null"
  | .bool value => "boolean `" ++ (if value then "true" else "false") ++ "`"
  | .integer value => integerText value
  | .real value => "floating point `" ++ realText layout value ++ "`"
  | .string value => "string " ++ Text.quote value
  | .sequence => "sequence"
  | .mapping => "map"

/-- The wording of what was expected. -/
def Expected.text : Expected → String
  | .string => "a string"
  | .sequence => "a sequence"
  | .mapping => "a map"
  | .address => "a string representing an URL"
  | .record title => "struct " ++ title

/-- A choice of names, each between backticks. -/
def choiceText (names : List String) : String :=
  let quoted := names.map fun name ↦ "`" ++ name ++ "`"
  match quoted with
  | [] => "there are no fields"
  | [one] => "expected " ++ one
  | [one, two] => "expected " ++ one ++ " or " ++ two
  | many => "expected one of " ++ ", ".intercalate many

/-- The wording of a misfit. -/
def Misfit.message (layout : Decimal.Layout) : Misfit → String
  | .missingField name => "missing field `" ++ name ++ "`"
  | .duplicateField name => "duplicate field `" ++ name ++ "`"
  | .unknownField name known => "unknown field `" ++ name ++ "`, " ++ choiceText known
  | .invalidType found expected =>
    "invalid type: " ++ found.text layout ++ ", expected " ++ expected.text
  | .tooFewItems count title fields =>
    "invalid length " ++ toString count ++ ", expected struct " ++ title ++ " with " ++
      toString fields ++ (if fields = 1 then " element" else " elements")
  | .neitherOneNorMany => "data did not match any variant of untagged enum OneOrMany"
  | .badAddress fault text => fault.message ++ ": " ++ Text.quote text
  | .integerOverflow => "integer number overflowed"
  | .realOverflow => "floating-point number overflowed"

end ConnectorProfiles
