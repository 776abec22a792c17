import Containment.Calendar.Time
import Containment.Entries

namespace Containment

/-! Values: nested data with scalars, moments of the calendar, members of enumerations, and
objects with named attributes. -/

/-- A member of an enumeration carries its value along. -/
inductive Value where
  | null
  | bool (flag : Bool)
  | int (number : Int64)
  | float (number : Binary64)
  | bytes (content : List UInt8)
  | str (text : String)
  | member (enumeration name : String) (payload : Value)
  | date (day : Date)
  | time (clock : Time)
  | datetime (moment : DateTime)
  | list (items : List Value)
  | map (entries : List (String × Value))
  | object (typeName : String) (attributes : List (String × Value))

namespace Value

def isNull : Value → Bool
  | .null => true
  | _ => false

def asList? : Value → Option (List Value)
  | .list items => some items
  | _ => none

def asMap? : Value → Option (Entries Value)
  | .map entries => some entries
  | _ => none

def fields? : Value → Option (Entries Value)
  | .map entries => some entries
  | .object _ attributes => some attributes
  | _ => none

def field? (value : Value) (name : String) : Option Value :=
  value.fields?.bind (Entries.lookup? name)

/-- A member goes by the name of its enumeration, an object by its own type name. -/
def typeName : Value → String
  | .null => "NoneType"
  | .bool _ => "bool"
  | .int _ => "int"
  | .float _ => "float"
  | .bytes _ => "bytes"
  | .str _ => "str"
  | .member enumeration _ _ => enumeration
  | .date _ => "date"
  | .time _ => "time"
  | .datetime _ => "datetime"
  | .list _ => "list"
  | .map _ => "dict"
  | .object typeName _ => typeName

mutual
/-- Lists and maps are one larger than their parts together, all other values have size
one. -/
def size : Value → Nat
  | .list items => 1 + sizeOfItems items
  | .map entries => 1 + sizeOfEntries entries
  | _ => 1

def sizeOfItems : List Value → Nat
  | [] => 0
  | item :: rest => item.size + sizeOfItems rest

def sizeOfEntries : List (String × Value) → Nat
  | [] => 0
  | (_, value) :: rest => value.size + sizeOfEntries rest
end

mutual
/-- Every map and every object, at any depth, has distinct names. -/
def wellKeyed : Value → Bool
  | .list items => wellKeyedItems items
  | .map entries => decide (Entries.names entries).Nodup && wellKeyedEntries entries
  | .object _ attributes =>
      decide (Entries.names attributes).Nodup && wellKeyedEntries attributes
  | .member _ _ payload => payload.wellKeyed
  | _ => true

def wellKeyedItems : List Value → Bool
  | [] => true
  | item :: rest => item.wellKeyed && wellKeyedItems rest

def wellKeyedEntries : List (String × Value) → Bool
  | [] => true
  | (_, value) :: rest => value.wellKeyed && wellKeyedEntries rest
end

theorem size_le_sizeOfItems {item : Value} {items : List Value} (h : item ∈ items) :
    item.size ≤ sizeOfItems items := by
  induction items with
  | nil => cases h
  | cons head rest ih =>
      rw [sizeOfItems]
      rcases List.mem_cons.mp h with rfl | h
      · omega
      · have := ih h
        omega

theorem size_le_sizeOfEntries {entry : String × Value} {entries : List (String × Value)}
    (h : entry ∈ entries) : entry.2.size ≤ sizeOfEntries entries := by
  induction entries with
  | nil => cases h
  | cons head rest ih =>
      rw [sizeOfEntries]
      rcases List.mem_cons.mp h with rfl | h
      · omega
      · have := ih h
        omega

end Value

end Containment
