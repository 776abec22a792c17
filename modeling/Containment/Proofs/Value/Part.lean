import Containment.Location
import Containment.Value

namespace Containment

/-! The parts of a value, by the way that leads to them. -/

namespace Value

/-- The part one step down: an item of a list, or a field of a map or of an object. -/
def child? : Value → Segment → Option Value
  | .list items, .index position => items[position]?
  | _, .index _ => none
  | value, .field name => value.field? name

def part? (value : Value) : Location → Option Value
  | [] => some value
  | segment :: rest => (value.child? segment).bind fun child => child.part? rest

/-- The list is too short for the position, or the map or object is without the field. -/
inductive Lacks : Value → Segment → Prop where
  | item {items : List Value} {position : Nat} (short : items.length ≤ position) :
      Lacks (.list items) (.index position)
  | field {value : Value} {entries : Entries Value} {name : String}
      (named : value.fields? = some entries) (absent : value.field? name = none) :
      Lacks value (.field name)

theorem part?_cons {value child : Value} {segment : Segment} {rest : Location}
    (found : value.child? segment = some child) :
    value.part? (segment :: rest) = child.part? rest := by
  rw [part?, found, Option.bind_some]

theorem child?_index {items : List Value} {part : Value} {position : Nat}
    (found : items[position]? = some part) :
    (Value.list items).child? (.index position) = some part := found

theorem child?_field {value part : Value} {entries : Entries Value} {name : String}
    (named : value.fields? = some entries) (found : Entries.lookup? name entries = some part) :
    value.child? (.field name) = some part := by
  have fields : value.field? name = some part := by rw [field?, named, Option.bind_some, found]
  cases value <;> exact fields

theorem wellKeyedItems_iff {items : List Value} :
    wellKeyedItems items = true ↔ ∀ item ∈ items, item.wellKeyed = true := by
  induction items with
  | nil => simp [wellKeyedItems]
  | cons item rest ih => simp [wellKeyedItems, ih]

theorem wellKeyedEntries_iff {entries : Entries Value} :
    wellKeyedEntries entries = true ↔ ∀ entry ∈ entries, entry.2.wellKeyed = true := by
  induction entries with
  | nil => simp [wellKeyedEntries]
  | cons entry rest ih => simp [wellKeyedEntries, ih]

theorem wellKeyed_fields {value : Value} {entries : Entries Value} (keyed : value.wellKeyed = true)
    (named : value.fields? = some entries) :
    entries.names.Nodup ∧ ∀ entry ∈ entries, entry.2.wellKeyed = true := by
  cases value with
  | map | object =>
      cases named
      rwa [wellKeyed, Bool.and_eq_true, decide_eq_true_eq, wellKeyedEntries_iff] at keyed
  | _ => cases named

end Value

end Containment
