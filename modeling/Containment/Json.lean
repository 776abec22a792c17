import Containment.Mismatch
import Containment.Number.Numeral
import Containment.Value

namespace Containment

/-! JSON documents: as values, and as the export of reports. Of members with one name the
last counts. -/

inductive Json where
  | null
  | bool (flag : Bool)
  | integer (number : Int)
  | decimal (number : Binary64) (finite : number.units?.isSome = true)
  | string (text : String)
  | array (items : List Json)
  | object (members : List (String × Json))

/-- The 64-bit integer with this value, or else the nearest float. -/
def Value.ofInteger (number : Int) : Value :=
  match Numeral.int64? number with
  | some number => .int number
  | none => .float (.ofInt number)

mutual
def Value.ofJson : Json → Value
  | .null => .null
  | .bool flag => .bool flag
  | .integer number => .ofInteger number
  | .decimal number _ => .float number
  | .string text => .str text
  | .array items => .list (Value.itemsOfJson items)
  | .object members => .map (Entries.ofList (Value.entriesOfJson members))

def Value.itemsOfJson : List Json → List Value
  | [] => []
  | item :: rest => Value.ofJson item :: Value.itemsOfJson rest

def Value.entriesOfJson : List (String × Json) → List (String × Value)
  | [] => []
  | (name, item) :: rest => (name, Value.ofJson item) :: Value.entriesOfJson rest
end

def Segment.toJson : Segment → Json
  | .field name => .string name
  | .index position => .integer position

/-- The parts of a mismatch; the optional ones only where they are present. -/
def Mismatch.toJson (mismatch : Mismatch) : Json :=
  let optional (name : String) : Option String → List (String × Json)
    | some text => [(name, .string text)]
    | none => []
  .object
    ([("loc", .array (mismatch.location.map Segment.toJson)),
      ("type", .string mismatch.kind), ("msg", .string mismatch.message)] ++
      optional "got" mismatch.got? ++ optional "expected" mismatch.expected?)

def Report.toJson (report : Report) : Json :=
  .array (report.toList.map Mismatch.toJson)

end Containment
