import Containment.Schema.Description
import Containment.Shape

namespace Containment.Shape

/-! Keys of shapes. A shape without functions inside goes by its description. -/

open Text

mutual
/-- No generators and no checks anywhere, so that the shape is determined by its parts. -/
def isPlain : Shape → Bool
  | .value _ => true
  | .present => true
  | .schema type => type.isPlain
  | .generator _ => false
  | .list items => arePlain items
  | .dict entries => entriesArePlain entries

def arePlain : List Shape → Bool
  | [] => true
  | item :: rest => item.isPlain && arePlain rest

def entriesArePlain : List (Value × Shape) → Bool
  | [] => true
  | (_, shape) :: rest => shape.isPlain && entriesArePlain rest
end

mutual
def describe : Shape → String
  | .value constant => applied "Value" constant.describe
  | .present => "Ellipsis"
  | .schema type => applied "Type" type.describe
  | .generator source => applied "Generator" source.shown
  | .list items => applied "List" (bracketed (describeItems items))
  | .dict entries => applied "Dict" (bracketed (describeEntries entries))

def describeItems : List Shape → List String
  | [] => []
  | item :: rest => item.describe :: describeItems rest

def describeEntries : List (Value × Shape) → List String
  | [] => []
  | (key, shape) :: rest =>
      ("(" ++ key.describe ++ ", " ++ shape.describe ++ ")") :: describeEntries rest
end

def key? (shape : Shape) : Option String :=
  if shape.isPlain then some shape.describe else none

theorem key?_eq_some_iff {shape : Shape} {key : String} :
    shape.key? = some key ↔ shape.isPlain = true ∧ shape.describe = key := by
  simp [key?]

end Containment.Shape
