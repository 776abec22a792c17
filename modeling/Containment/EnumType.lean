import Containment.Value.Equality

namespace Containment

structure EnumType where
  name : String
  members : Entries Value
  deriving DecidableEq

namespace EnumType

def memberValue (type : EnumType) (name : String) (payload : Value) : Value :=
  .member type.name name payload

def member? (type : EnumType) (name : String) : Option Value :=
  (Entries.lookup? name type.members).map (type.memberValue name)

def memberValues (type : EnumType) : List Value :=
  type.members.map fun (name, payload) => type.memberValue name payload

/-- The first member that carries an equal value. -/
def ofPayload? (type : EnumType) (payload : Value) : Option Value :=
  (type.members.find? fun entry => entry.2.equals payload).map fun (name, found) =>
    type.memberValue name found

/-- Membership goes by the names of the enumeration and of the member. -/
def contains (type : EnumType) : Value → Bool
  | .member enumeration name _ =>
      enumeration == type.name && (Entries.lookup? name type.members).isSome
  | _ => false

end EnumType

end Containment
