import Containment.Generator
import Containment.Json
import Containment.Schema.Rendering

namespace Containment

/-! Expected shapes: what is written down to describe a matching value. -/

inductive Shape where
  | value (constant : Value)
  | present
  | schema (type : Schema)
  | generator (source : Generator)
  | list (items : List Shape)
  | dict (entries : List (Value × Shape))

namespace Shape

/-- Null, which may also be absent. -/
def nothing : Shape := .value .null

def something : Shape := .present

def anything : Shape := .schema .any

mutual
/-- A shape is larger than each of its parts, also where they are parts of a constant. -/
def size : Shape → Nat
  | .value constant => constant.size
  | .list items => 1 + sizeOfItems items
  | .dict entries => 1 + sizeOfEntries entries
  | _ => 1

def sizeOfItems : List Shape → Nat
  | [] => 0
  | item :: rest => item.size + sizeOfItems rest

def sizeOfEntries : List (Value × Shape) → Nat
  | [] => 0
  | (_, shape) :: rest => shape.size + sizeOfEntries rest
end

/-- The parts of a sequence, however it is written. -/
def items? : Shape → Option (List Shape)
  | .list items => some items
  | .value (.list items) => some (items.map .value)
  | _ => none

/-- The entries of a mapping, however it is written. -/
def entries? : Shape → Option (List (Value × Shape))
  | .dict entries => some entries
  | .value (.map entries) => some (entries.map fun (name, part) => (.str name, .value part))
  | _ => none

mutual
def render : Shape → String
  | .value constant => constant.render
  | .present => "Ellipsis"
  | .schema type => type.render
  | .generator source => source.shown
  | .list items => Text.bracketed (renderItems items)
  | .dict entries => Text.braced (renderEntries entries)

def renderItems : List Shape → List String
  | [] => []
  | item :: rest => item.render :: renderItems rest

def renderEntries : List (Value × Shape) → List String
  | [] => []
  | (key, shape) :: rest => (key.render ++ ": " ++ shape.render) :: renderEntries rest
end

mutual
/-- Arrays and objects become shapes of their own, scalars become constants. -/
def ofJson : Json → Shape
  | .array items => .list (itemsOfJson items)
  | .object members =>
      .dict ((Entries.ofList (entriesOfJson members)).map fun (name, shape) =>
        (.str name, shape))
  | scalar => .value (Value.ofJson scalar)

def itemsOfJson : List Json → List Shape
  | [] => []
  | item :: rest => ofJson item :: itemsOfJson rest

def entriesOfJson : List (String × Json) → List (String × Shape)
  | [] => []
  | (name, item) :: rest => (name, ofJson item) :: entriesOfJson rest
end

theorem size_le_sizeOfItems {item : Shape} {items : List Shape} (h : item ∈ items) :
    item.size ≤ sizeOfItems items := by
  induction items with
  | nil => cases h
  | cons head rest ih =>
      rw [sizeOfItems]
      rcases List.mem_cons.mp h with rfl | h
      · omega
      · have := ih h
        omega

theorem size_le_sizeOfEntries {entry : Value × Shape} {entries : List (Value × Shape)}
    (h : entry ∈ entries) : entry.2.size ≤ sizeOfEntries entries := by
  induction entries with
  | nil => cases h
  | cons head rest ih =>
      rw [sizeOfEntries]
      rcases List.mem_cons.mp h with rfl | h
      · omega
      · have := ih h
        omega

theorem size_lt_of_items? {shape part : Shape} {items : List Shape}
    (h : shape.items? = some items) (mem : part ∈ items) : part.size < shape.size := by
  unfold items? at h
  split at h
  · cases h
    have := size_le_sizeOfItems mem
    simp only [size]
    omega
  · cases h
    obtain ⟨constant, hmem, rfl⟩ := List.mem_map.mp mem
    have := Value.size_le_sizeOfItems hmem
    simp only [size, Value.size]
    omega
  · cases h

theorem size_lt_of_entries? {shape : Shape} {entry : Value × Shape}
    {entries : List (Value × Shape)} (h : shape.entries? = some entries)
    (mem : entry ∈ entries) : entry.2.size < shape.size := by
  unfold entries? at h
  split at h
  · cases h
    have := size_le_sizeOfEntries mem
    simp only [size]
    omega
  · cases h
    obtain ⟨constant, hmem, rfl⟩ := List.mem_map.mp mem
    have := Value.size_le_sizeOfEntries hmem
    simp only [size, Value.size]
    omega
  · cases h

end Shape

end Containment
