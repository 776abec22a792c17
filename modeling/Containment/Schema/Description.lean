import Containment.Schema
import Containment.Text.Visible

namespace Containment

/-! Structural descriptions: texts that name every constructor and every part. -/

namespace Text

def record (name : String) (parts : List (String × String)) : String :=
  name ++ " \x7b " ++ join ", " (parts.map fun (part, text) => part ++ ": " ++ text) ++ " \x7d"

def applied (name argument : String) : String :=
  name ++ "(" ++ argument ++ ")"

def describeOption : Option String → String
  | none => "None"
  | some text => applied "Some" text

def describeBool (flag : Bool) : String :=
  if flag then "true" else "false"

end Text

open Text

namespace Value

mutual
def describe : Value → String
  | .null => "Null"
  | .bool flag => applied "Bool" (describeBool flag)
  | .int number => applied "Int" (toString number.toInt)
  | .float number => applied "Float" number.describe
  | .bytes content => applied "Bytes" (bracketed (content.map fun b => toString b.toNat))
  | .str text => applied "Str" (described text)
  | .member owner name payload =>
      applied "Enum" (record "EnumMember" [("enum_name", described owner),
        ("name", described name), ("value", payload.describe)])
  | .date day => applied "Date" day.render
  | .time clock => applied "Time" clock.render
  | .datetime moment => applied "DateTime" (moment.renderWith 'T')
  | .list items => applied "List" (bracketed (describeItems items))
  | .map entries => applied "Map" (braced (describeEntries entries))
  | .object typeName attributes =>
      applied "Object" (record "ObjectValue" [("type_name", described typeName),
        ("attributes", braced (describeEntries attributes))])

def describeItems : List Value → List String
  | [] => []
  | item :: rest => item.describe :: describeItems rest

def describeEntries : List (String × Value) → List String
  | [] => []
  | (name, value) :: rest => (described name ++ ": " ++ value.describe) :: describeEntries rest
end

end Value

def Literal.describe (literal : Literal) : String :=
  literal.toValue.describe

def EnumType.describe (type : EnumType) : String :=
  record "EnumType" [("name", described type.name),
    ("members", braced (Value.describeEntries type.members))]

def Check.describe (check : Check) : String :=
  "AfterValidator \x7b name: " ++ described check.name ++ ", .. \x7d"

def Scalar.describe : Scalar → String
  | .null => "None"
  | .bool => "Bool"
  | .int => "Int"
  | .float => "Float"
  | .bytes => "Bytes"
  | .str => "Str"
  | .date => "Date"
  | .time => "Time"
  | .datetime => "DateTime"

namespace Schema

mutual
def describe : Schema → String
  | .any => "Any"
  | .scalar type => type.describe
  | .enumeration type => applied "Enum" type.describe
  | .anyMember => "AnyEnum"
  | .instanceOf typeName => applied "Instance" (described typeName)
  | .literal alternatives =>
      applied "Literal" (bracketed (alternatives.map Literal.describe))
  | .list item => applied "List" item.describe
  | .tuple positions => applied "Tuple" (bracketed (describeAll positions))
  | .dict item => applied "Dict" item.describe
  | .optional inner => applied "Optional" inner.describe
  | .union members => applied "Union" (bracketed (describeAll members))
  | .annotated inner checks =>
      applied "Annotated"
        (inner.describe ++ ", " ++ bracketed (checks.map Check.describe))
  | .model name fields =>
      applied "Model" (record "ModelSchema" [("name", described name),
        ("fields", braced (describeFields fields))])

def describeAll : List Schema → List String
  | [] => []
  | schema :: rest => schema.describe :: describeAll rest

def describeFields : List (String × Slot Schema) → List String
  | [] => []
  | (name, ⟨schema, default?, alias?⟩) :: rest =>
      (described name ++ ": " ++ record "FieldDef" [("type_expr", schema.describe),
        ("info", record "FieldInfo" [
          ("default", describeOption (default?.map Value.describe)),
          ("alias", describeOption (alias?.map described))])]) :: describeFields rest
end

end Schema

end Containment
