import Containment.Schema
import Containment.Value.Rendering

namespace Containment

/-! The fields of a model. -/

inductive FieldNameError where
  | notText (key : Value)
  | duplicate (name : String)
  deriving DecidableEq

def FieldNameError.message : FieldNameError → String
  | .notText key => "field names must be strings, got " ++ key.render
  | .duplicate name => "field '" ++ name ++ "' is declared more than once"

namespace Fields

/-- Adds the rules to given fields. Each key must be a text that names no field yet. -/
def addRules (fields : Entries Rule) :
    List (Value × Rule) → Except FieldNameError (Entries Rule)
  | [] => .ok fields
  | (.str name, rule) :: rest =>
      if (Entries.lookup? name fields).isSome then .error (.duplicate name)
      else addRules (fields ++ [(name, rule)]) rest
  | (key, _) :: _ => .error (.notText key)

def ofRules (rules : List (Value × Rule)) : Except FieldNameError (Entries Rule) :=
  addRules [] rules

end Fields

end Containment
