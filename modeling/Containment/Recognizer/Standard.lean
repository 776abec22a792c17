import Containment.Fields
import Containment.Recognizer

namespace Containment.Recognizer

/-! The standard recognizers. -/

def nothing : Recognizer :=
  ofShape "nothing" fun
    | .value .null => some (.optional (.scalar .null) .null)
    | _ => none

def something : Recognizer :=
  ofShape "something" fun
    | .present => some (.required .any)
    | _ => none

/-- The type of all values, which also admits absence. -/
def anything : Recognizer :=
  ofShape "anything" fun
    | .schema .any => some (.optional .any .null)
    | _ => none

def literal : Recognizer :=
  ofShape "literal" fun
    | .value constant =>
        (Literal.ofValue? constant).map fun found => .required (.literal [found])
    | _ => none

def isCompared : Value → Bool
  | .date _ => true
  | .time _ => true
  | .datetime _ => true
  | .object _ _ => true
  | _ => false

def equalityCheck (constant : Value) (origin : Origin) : Check where
  name := "equals(" ++ constant.render ++ ")"
  origin := origin
  run value :=
    if value.equals constant then .ok value
    else .error ("value should be " ++ constant.render)

/-- A constant that does not equal itself is not claimed, since nothing could match it. -/
def equalityConstant : Recognizer where
  name := "equality_constant"
  recognize shape context := .ok <|
    match shape with
    | .value constant =>
        if isCompared constant && constant.equals constant then
          some (.required (.annotated (.ofValue constant)
            [equalityCheck constant context.origin]))
        else none
    | _ => none

def typeExpression : Recognizer :=
  ofShape "type_expr" fun
    | .schema .any => none
    | .schema type => some (.required type)
    | _ => none

def typeGenerator : Recognizer where
  name := "type_generator"
  recognize shape context := .ok <|
    match shape with
    | .generator source => some (.required (source.toSchema context.origin))
    | _ => none

/-- The segment of an entry of a mapping: a text key itself, any other key as shown. -/
def keySegment : Value → Segment
  | .str name => .field name
  | key => .field key.render

def modelName : String := "Model"

/-- A mapping becomes a model. One whose keys are not distinct texts is not claimed. -/
def mapping : Recognizer where
  name := "mapping"
  recognize shape context :=
    match found : shape.entries? with
    | none => .ok none
    | some entries =>
        match context.convertParts keySegment entries
            (fun _ mem => Shape.size_lt_of_entries? found mem) with
        | .error unclaimed => .error unclaimed
        | .ok rules =>
            match Fields.ofRules rules with
            | .ok fields => .ok (some (.required (.model modelName fields)))
            | .error _ => .ok none

def positioned (items : List Shape) : List (Nat × Shape) :=
  items.zipIdx.map fun (item, position) => (position, item)

theorem mem_of_mem_positioned {items : List Shape} {part : Nat × Shape}
    (h : part ∈ positioned items) : part.2 ∈ items := by
  obtain ⟨⟨item, position⟩, hmem, rfl⟩ := List.mem_map.mp h
  exact List.fst_mem_of_mem_zipIdx hmem

/-- A sequence becomes a tuple. Absence of a part is never admitted. -/
def sequence : Recognizer where
  name := "sequence"
  recognize shape context :=
    match found : shape.items? with
    | none => .ok none
    | some items =>
        match context.convertParts Segment.index (positioned items)
            (fun _ mem => Shape.size_lt_of_items? found (mem_of_mem_positioned mem)) with
        | .error unclaimed => .error unclaimed
        | .ok rules => .ok (some (.required (.tuple (rules.map fun rule => rule.2.schema))))

def standardStatics : List Recognizer :=
  [nothing, something, anything, literal, equalityConstant, typeExpression, typeGenerator]

def standardDynamics : List Recognizer :=
  [mapping, sequence]

end Containment.Recognizer
