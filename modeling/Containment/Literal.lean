import Containment.Value.Equality
import Containment.Value.Rendering

namespace Containment

/-! Literals: the scalars that are matched exactly and collected in sets. -/

inductive Literal where
  | bool (flag : Bool)
  | int (number : Int64)
  | float (number : Binary64)
  | bytes (content : List UInt8)
  | str (text : String)
  | member (enumeration name : String) (payload : Value)
  deriving DecidableEq

namespace Literal

/-- Only scalars have a literal, and of these not null, not-a-number, dates and times. -/
def ofValue? : Value → Option Literal
  | .bool flag => some (.bool flag)
  | .int number => some (.int number)
  | .float number => if number.isNan then none else some (.float number)
  | .bytes content => some (.bytes content)
  | .str text => some (.str text)
  | .member enumeration name payload => some (.member enumeration name payload)
  | _ => none

def toValue : Literal → Value
  | .bool flag => .bool flag
  | .int number => .int number
  | .float number => .float number
  | .bytes content => .bytes content
  | .str text => .str text
  | .member enumeration name payload => .member enumeration name payload

/-- A literal matches the values of its own kind that equal it. -/
def accepts : Literal → Value → Bool
  | .bool a, .bool b => a == b
  | .int a, .int b => a == b
  | .float a, .float b => a.equals b
  | .bytes a, .bytes b => a == b
  | .str a, .str b => a == b
  | .member a m _, .member b n _ => a == b && m == n
  | _, _ => false

/-- Equality in sets of literals: not-a-number is one element, members go by name. -/
def agrees : Literal → Literal → Bool
  | .bool a, .bool b => a == b
  | .int a, .int b => a == b
  | .float a, .float b => Binary64.agrees a b
  | .bytes a, .bytes b => a == b
  | .str a, .str b => a == b
  | .member a m _, .member b n _ => a == b && m == n
  | _, _ => false

def render (literal : Literal) : String :=
  literal.toValue.render

end Literal

end Containment
