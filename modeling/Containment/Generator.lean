import Containment.Schema

namespace Containment

/-! Generators: expectations made of a schema and a further check. -/

/-- The check runs on what the schema accepted. The text is shown where the generator
stands in an expected shape. -/
structure Generator where
  name : String
  dataType : Schema
  check : Value → Except String Unit
  shown : String

namespace Generator

def defaultName : String := "type_generator"

def toCheck (generator : Generator) (origin : Origin) : Check where
  name := generator.name
  origin := origin
  run value := (generator.check value).map fun _ => value

def toSchema (generator : Generator) (origin : Origin) : Schema :=
  .annotated generator.dataType [generator.toCheck origin]

end Generator

end Containment
