import Containment.Schema

namespace Containment

/-! The equality of schemas regards the fields of a model and the members of an enumeration
without their order, and checks by name and origin. -/

namespace EnumType

def equals (left right : EnumType) : Bool :=
  left.name == right.name &&
    (Value.map left.members).equals (Value.map right.members)

end EnumType

namespace Schema

def literalsAgree : List Literal → List Literal → Bool
  | [], [] => true
  | a :: as, b :: bs => a.agrees b && literalsAgree as bs
  | _, _ => false

def checksSame : List Check → List Check → Bool
  | [], [] => true
  | a :: as, b :: bs => a.same b && checksSame as bs
  | _, _ => false

def defaultsEqual : Option Value → Option Value → Bool
  | none, none => true
  | some a, some b => a.equals b
  | _, _ => false

mutual
def equals : Schema → Schema → Bool
  | .any, .any => true
  | .scalar a, .scalar b => a == b
  | .enumeration a, .enumeration b => a.equals b
  | .anyMember, .anyMember => true
  | .instanceOf a, .instanceOf b => a == b
  | .literal as, .literal bs => literalsAgree as bs
  | .list a, .list b => a.equals b
  | .tuple as, .tuple bs => allEqual as bs
  | .dict a, .dict b => a.equals b
  | .optional a, .optional b => a.equals b
  | .union as, .union bs => allEqual as bs
  | .annotated a checks, .annotated b others => a.equals b && checksSame checks others
  | .model m as, .model n bs => m == n && as.length == bs.length && fieldsWithin as bs
  | _, _ => false

def allEqual : List Schema → List Schema → Bool
  | [], [] => true
  | a :: as, b :: bs => a.equals b && allEqual as bs
  | _, _ => false

/-- Every field of the first list has an equal field of its name in the second. -/
def fieldsWithin : List (String × Slot Schema) → List (String × Slot Schema) → Bool
  | [], _ => true
  | (name, ⟨schema, default?, alias?⟩) :: rest, others =>
      (match Entries.lookup? name others with
        | some other =>
            schema.equals other.schema && defaultsEqual default? other.default? &&
              alias? == other.alias?
        | none => false) && fieldsWithin rest others
end

end Schema

def Rule.equals (left right : Rule) : Bool :=
  Schema.fieldsWithin [("", left)] [("", right)]

end Containment
