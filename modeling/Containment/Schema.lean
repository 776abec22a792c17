import Containment.EnumType
import Containment.Literal
import Containment.Location

namespace Containment

/-! Schemas: which values are acceptable. -/

inductive Scalar where
  | null
  | bool
  | int
  | float
  | bytes
  | str
  | date
  | time
  | datetime
  deriving DecidableEq

/-- Where a check comes from: declared on its own, or made for the part at a location by
one run of a conversion. -/
inductive Origin where
  | declared (token : Nat)
  | converted (run : Nat) (location : Location)
  deriving DecidableEq

/-- A named check of an accepted value. It answers the value to go on with, or the reason
for rejecting it. -/
structure Check where
  name : String
  origin : Origin
  run : Value → Except String Value

/-- Checks are told apart by name and origin. -/
def Check.same (left right : Check) : Bool :=
  left.name == right.name && left.origin == right.origin

/-- What stands behind a field name: an expectation, the value to take where the field is
absent, and another name to look under first. -/
structure Slot (σ : Type) where
  schema : σ
  default? : Option Value
  alias? : Option String

namespace Slot

variable {σ : Type}

def required (schema : σ) : Slot σ :=
  ⟨schema, none, none⟩

def optional (schema : σ) (default : Value) : Slot σ :=
  ⟨schema, some default, none⟩

def isRequired (slot : Slot σ) : Bool :=
  slot.default?.isNone

def withAlias (slot : Slot σ) (name : String) : Slot σ :=
  { slot with alias? := some name }

end Slot

inductive Schema where
  | any
  | scalar (type : Scalar)
  | enumeration (type : EnumType)
  | anyMember
  | instanceOf (typeName : String)
  | literal (alternatives : List Literal)
  | list (item : Schema)
  | tuple (positions : List Schema)
  | dict (item : Schema)
  | optional (inner : Schema)
  | union (members : List Schema)
  | annotated (inner : Schema) (checks : List Check)
  | model (name : String) (fields : List (String × Slot Schema))

abbrev Rule := Slot Schema

namespace Schema

/-- Any scalar that can be a literal, as given. -/
def anyLiteral : Schema :=
  .union [.scalar .bool, .scalar .int, .scalar .float, .scalar .bytes, .scalar .str,
    .anyMember]

def ofValue : Value → Schema
  | .null => .scalar .null
  | .bool _ => .scalar .bool
  | .int _ => .scalar .int
  | .float _ => .scalar .float
  | .bytes _ => .scalar .bytes
  | .str _ => .scalar .str
  | .date _ => .scalar .date
  | .time _ => .scalar .time
  | .datetime _ => .scalar .datetime
  | .list _ => .list .any
  | .map _ => .dict .any
  | .member owner _ _ => .instanceOf owner
  | .object typeName _ => .instanceOf typeName

mutual
/-- No checks anywhere, so that the schema is determined by its parts. -/
def isPlain : Schema → Bool
  | .annotated _ _ => false
  | .list item => item.isPlain
  | .dict item => item.isPlain
  | .optional inner => inner.isPlain
  | .tuple positions => arePlain positions
  | .union members => arePlain members
  | .model _ fields => fieldsArePlain fields
  | _ => true

def arePlain : List Schema → Bool
  | [] => true
  | schema :: rest => schema.isPlain && arePlain rest

def fieldsArePlain : List (String × Slot Schema) → Bool
  | [] => true
  | (_, ⟨schema, _, _⟩) :: rest => schema.isPlain && fieldsArePlain rest
end

end Schema

end Containment
