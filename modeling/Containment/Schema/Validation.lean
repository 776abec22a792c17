import Containment.Schema.Coercion
import Containment.Schema.Rendering

namespace Containment

/-! Validation of a value against a schema: the accepted value, or a report of every
mismatch. -/

namespace Schema

mutual
/-- The value belongs to the type as it stands, judged by its outermost kind. -/
def isExact : Schema → Value → Bool
  | .any, _ => true
  | .scalar .null, .null => true
  | .scalar .bool, .bool _ => true
  | .scalar .int, .int _ => true
  | .scalar .float, .float _ => true
  | .scalar .bytes, .bytes _ => true
  | .scalar .str, .str _ => true
  | .scalar .date, .date _ => true
  | .scalar .time, .time _ => true
  | .scalar .datetime, .datetime _ => true
  | .enumeration type, value => type.contains value
  | .anyMember, .member .. => true
  | .instanceOf typeName, value => value.typeName == typeName
  | .literal alternatives, value => alternatives.any (·.accepts value)
  | .list _, .list _ => true
  | .tuple _, .list _ => true
  | .dict _, .map _ => true
  | .model _ _, .map _ => true
  | .model _ _, .object _ _ => true
  | .optional inner, value => value.isNull || inner.isExact value
  | .union members, value => anyExact members value
  | .annotated inner _, value => inner.isExact value
  | _, _ => false

def anyExact : List Schema → Value → Bool
  | [], _ => false
  | schema :: rest, value => schema.isExact value || anyExact rest value
end

def judge {α : Type} (outcome : Except Fault α) (value : Value) (location : Location) :
    Except Report α :=
  match outcome with
  | .ok result => .ok result
  | .error fault => .error (fault.report value location)

/-- Runs the checks in turn, each on the value that the one before went on with. -/
def runChecks : List Check → Value → Location → Except Report Value
  | [], value, _ => .ok value
  | check :: rest, value, location =>
      match check.run value with
      | .ok next => runChecks rest next location
      | .error reason => .error ((Fault.rejected reason).report value location)

def surplusItems (limit : Nat) (items : List Value) (location : Location) :
    List (Except Report Value) :=
  (items.zipIdx.drop limit).map fun (item, position) =>
    .error ((Fault.surplus limit items.length).report item (location.index position))

def missing (schema : Schema) (location : Location) : Report :=
  .single ((Fault.missing schema.render).mismatch location none)

/-- The value of a field: under its alias if it has one, else under its name. -/
def fieldValue? (name : String) (alias? : Option String) (entries : Entries Value) :
    Option Value :=
  (alias?.bind fun other => Entries.lookup? other entries).or (Entries.lookup? name entries)

mutual
def validate : Schema → Value → Location → Except Report Value
  | .any, value, _ => .ok value
  | .scalar type, value, location => judge (type.coerce value) value location
  | .enumeration type, value, location => judge (type.coerce value) value location
  | .anyMember, value, location =>
      match value with
      | .member .. => .ok value
      | _ => .error ((Fault.notInstance "Enum").report value location)
  | .instanceOf typeName, value, location =>
      if value.typeName = typeName then .ok value
      else .error ((Fault.notInstance typeName).report value location)
  | .literal alternatives, value, location =>
      if alternatives.any (·.accepts value) then .ok value
      else .error ((Fault.notLiteral alternatives).report value location)
  | .list item, value, location =>
      match value with
      | .list items =>
          (Report.gather (items.mapIdx fun position part =>
            item.validate part (location.index position))).map .list
      | _ => .error (Fault.notList.report value location)
  | .tuple positions, value, location =>
      match value with
      | .list items =>
          (Report.gather (validatePositions positions items location 0 ++
            surplusItems positions.length items location)).map .list
      | _ => .error (Fault.notTuple.report value location)
  | .dict item, value, location =>
      match value with
      | .map entries =>
          (Report.gather (entries.map fun (name, part) =>
            (item.validate part (location.field name)).map (name, ·))).map .map
      | _ => .error (Fault.notDict.report value location)
  | .optional inner, value, location =>
      if value.isNull then .ok .null else inner.validate value location
  | .union members, value, location =>
      match validateExact? members value location with
      | some result => .ok result
      | none => Report.choose value (validateAlternatives members value location)
  | .annotated inner checks, value, location =>
      match inner.validate value location with
      | .ok result => runChecks checks result location
      | .error report => .error report
  | .model name fields, value, location =>
      match value.fields? with
      | some entries => (Report.gather (validateFields fields entries location)).map .map
      | none => .error ((Fault.notModel name).report value location)

def validatePositions : List Schema → List Value → Location → Nat →
    List (Except Report Value)
  | [], _, _, _ => []
  | schema :: rest, items, location, position =>
      (match items with
        | item :: _ => schema.validate item (location.index position)
        | [] => .error (schema.missing (location.index position))) ::
        validatePositions rest items.tail location (position + 1)

/-- The result of the first member that the value belongs to and that accepts it. -/
def validateExact? : List Schema → Value → Location → Option Value
  | [], _, _ => none
  | schema :: rest, value, location =>
      if schema.isExact value then
        match schema.validate value location with
        | .ok result => some result
        | .error _ => validateExact? rest value location
      else validateExact? rest value location

/-- The outcome for each member, at a location that names the member. -/
def validateAlternatives : List Schema → Value → Location → List (Except Report Value)
  | [], _, _ => []
  | schema :: rest, value, location =>
      schema.validate value (location.field schema.render) ::
        validateAlternatives rest value location

/-- The outcome for each field, at the location of its alias or else its name. -/
def validateFields : List (String × Slot Schema) → Entries Value → Location →
    List (Except Report (String × Value))
  | [], _, _ => []
  | (name, ⟨schema, default?, alias?⟩) :: rest, entries, location =>
      (match fieldValue? name alias? entries, default? with
        | some part, _ =>
            (schema.validate part (location.field (alias?.getD name))).map (name, ·)
        | none, some default => .ok (name, default)
        | none, none => .error (schema.missing (location.field (alias?.getD name)))) ::
        validateFields rest entries location
end

def check (schema : Schema) (value : Value) : Except Report Value :=
  schema.validate value Location.root

end Schema

end Containment
