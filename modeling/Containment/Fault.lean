import Containment.EnumType
import Containment.Literal
import Containment.Mismatch

namespace Containment

/-! The causes of mismatches, and the wording of each. -/

inductive Fault where
  | notNull
  | notBool
  | boolText
  | notInt
  | intText
  | intTextSize
  | floatSize
  | floatFraction
  | notFinite
  | notFloat
  | floatText
  | notStr
  | strEncoding
  | notBytes
  | notDate
  | dateText
  | inexactDate
  | notTime
  | timeText
  | notDateTime
  | dateTimeText
  | notOfEnumeration (type : EnumType)
  | notInstance (typeName : String)
  | notLiteral (alternatives : List Literal)
  | notList
  | notTuple
  | surplus (limit count : Nat)
  | notDict
  | notModel (name : String)
  | missing (expected : String)
  | rejected (reason : String)

namespace Fault

def kind : Fault → String
  | .notNull => "none_required"
  | .notBool => "bool_type"
  | .boolText => "bool_parsing"
  | .notInt => "int_type"
  | .intText => "int_parsing"
  | .intTextSize => "int_parsing_size"
  | .floatSize => "int_parsing_size"
  | .floatFraction => "int_from_float"
  | .notFinite => "finite_number"
  | .notFloat => "float_type"
  | .floatText => "float_parsing"
  | .notStr => "string_type"
  | .strEncoding => "string_unicode"
  | .notBytes => "bytes_type"
  | .notDate => "date_type"
  | .dateText => "date_parsing"
  | .inexactDate => "date_from_datetime_inexact"
  | .notTime => "time_type"
  | .timeText => "time_parsing"
  | .notDateTime => "datetime_type"
  | .dateTimeText => "datetime_parsing"
  | .notOfEnumeration _ => "enum"
  | .notInstance _ => "is_instance_of"
  | .notLiteral _ => "literal_error"
  | .notList => "list_type"
  | .notTuple => "tuple_type"
  | .surplus _ _ => "too_long"
  | .notDict => "dict_type"
  | .notModel _ => "model_type"
  | .missing _ => "missing"
  | .rejected _ => Mismatch.generalKind

def message : Fault → String
  | .notNull => "Input should be None"
  | .notBool => "Input should be a valid boolean"
  | .boolText => "Input should be a valid boolean, unable to interpret input"
  | .notInt => "Input should be a valid integer"
  | .intText => "Input should be a valid integer, unable to parse string as an integer"
  | .intTextSize => "Unable to parse input string as an integer, exceeded maximum size"
  | .floatSize => "Input should be a valid integer, number exceeds the supported range"
  | .floatFraction => "Input should be a valid integer, got a number with a fractional part"
  | .notFinite => "Input should be a finite number"
  | .notFloat => "Input should be a valid number"
  | .floatText => "Input should be a valid number, unable to parse string as a number"
  | .notStr => "Input should be a valid string"
  | .strEncoding =>
      "Input should be a valid string, unable to parse raw data as a unicode string"
  | .notBytes => "Input should be a valid bytes"
  | .notDate => "Input should be a valid date"
  | .dateText => "Input should be a valid date in the format YYYY-MM-DD"
  | .inexactDate => "Datetimes provided to dates should have zero time - e.g. be exact dates"
  | .notTime => "Input should be a valid time"
  | .timeText => "Input should be in a valid time format"
  | .notDateTime => "Input should be a valid datetime"
  | .dateTimeText => "Input should be a valid datetime"
  | .notOfEnumeration type =>
      "Input should be " ++ Text.oneOf (type.members.map fun entry => entry.2.render)
  | .notInstance typeName => "Input should be an instance of " ++ typeName
  | .notLiteral alternatives =>
      "Input should be " ++ Text.oneOf (alternatives.map Literal.render)
  | .notList => "Input should be a valid list"
  | .notTuple => "Input should be a valid tuple"
  | .surplus limit count =>
      "Tuple should have at most " ++ toString limit ++ " items after validation, not " ++
        toString count
  | .notDict => "Input should be a valid dictionary"
  | .notModel name => "Input should be a valid dictionary or instance of " ++ name
  | .missing _ => "Field required"
  | .rejected reason => "Value error, " ++ reason

def expected? : Fault → Option String
  | .notOfEnumeration type => some type.name
  | .notInstance typeName => some typeName
  | .notLiteral alternatives => some (Text.oneOf (alternatives.map Literal.render))
  | .notModel name => some name
  | .missing expected => some expected
  | _ => none

/-- The mismatch that a fault makes at a location, with the value found there if any. -/
def mismatch (fault : Fault) (location : Location) (found? : Option Value) : Mismatch :=
  ⟨location, fault.kind, fault.message, found?.map Value.render, fault.expected?⟩

def report (fault : Fault) (value : Value) (location : Location) : Report :=
  .single (fault.mismatch location (some value))

end Fault

end Containment
