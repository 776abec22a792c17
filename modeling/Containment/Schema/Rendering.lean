import Containment.Schema

namespace Containment

/-! The text of a schema. A model goes by its name. -/

def Scalar.render : Scalar → String
  | .null => "None"
  | .bool => "bool"
  | .int => "int"
  | .float => "float"
  | .bytes => "bytes"
  | .str => "str"
  | .date => "date"
  | .time => "time"
  | .datetime => "datetime"

namespace Schema

mutual
def render : Schema → String
  | .any => "Any"
  | .scalar type => type.render
  | .enumeration type => type.name
  | .anyMember => "Enum"
  | .instanceOf typeName => typeName
  | .literal alternatives => "Literal" ++ Text.bracketed (alternatives.map Literal.render)
  | .list item => "list[" ++ item.render ++ "]"
  | .tuple [] => "tuple[()]"
  | .tuple positions => "tuple" ++ Text.bracketed (renderAll positions)
  | .dict item => "dict[str, " ++ item.render ++ "]"
  | .optional inner => "Optional[" ++ inner.render ++ "]"
  | .union members => "Union" ++ Text.bracketed (renderAll members)
  | .annotated inner checks =>
      "Annotated" ++ Text.bracketed (inner.render :: checks.map Check.name)
  | .model name _ => name

def renderAll : List Schema → List String
  | [] => []
  | schema :: rest => schema.render :: renderAll rest
end

theorem renderAll_eq_map (schemas : List Schema) :
    renderAll schemas = schemas.map render := by
  induction schemas with
  | nil => rfl
  | cons schema rest ih => simp [renderAll, ih]

end Schema

end Containment
