import Containment.Schema

namespace Containment.Schema

/-! The schemas that stand inside a schema, and properties that all of them have. -/

theorem arePlain_iff {schemas : List Schema} :
    arePlain schemas = true ↔ ∀ schema ∈ schemas, schema.isPlain = true := by
  induction schemas with
  | nil => simp [arePlain]
  | cons schema rest ih => simp [arePlain, ih]

theorem fieldsArePlain_iff {fields : List (String × Slot Schema)} :
    fieldsArePlain fields = true ↔ ∀ field ∈ fields, field.2.schema.isPlain = true := by
  induction fields with
  | nil => simp [fieldsArePlain]
  | cons field rest ih => simp [fieldsArePlain, ih]

/-- A schema stands somewhere in another one, be it as a whole or as a field of a model. -/
inductive Occurs (part : Schema) : Schema → Prop where
  | here : Occurs part part
  | list {item : Schema} (inside : Occurs part item) : Occurs part (.list item)
  | tuple {positions : List Schema} {schema : Schema} (mem : schema ∈ positions)
      (inside : Occurs part schema) : Occurs part (.tuple positions)
  | dict {item : Schema} (inside : Occurs part item) : Occurs part (.dict item)
  | optional {inner : Schema} (inside : Occurs part inner) : Occurs part (.optional inner)
  | union {members : List Schema} {schema : Schema} (mem : schema ∈ members)
      (inside : Occurs part schema) : Occurs part (.union members)
  | annotated {inner : Schema} {checks : List Check} (inside : Occurs part inner) :
      Occurs part (.annotated inner checks)
  | model {name : String} {fields : List (String × Slot Schema)}
      {field : String × Slot Schema} (mem : field ∈ fields)
      (inside : Occurs part field.2.schema) : Occurs part (.model name fields)

def children : Schema → List Schema
  | .list item => [item]
  | .tuple positions => positions
  | .dict item => [item]
  | .optional inner => [inner]
  | .union members => members
  | .annotated inner _ => [inner]
  | .model _ fields => fields.map fun field => field.2.schema
  | _ => []

theorem Occurs.of_child {part child whole : Schema} (mem : child ∈ whole.children)
    (inside : Occurs part child) : Occurs part whole := by
  cases whole with
  | list item => exact .list (List.mem_singleton.mp mem ▸ inside)
  | dict item => exact .dict (List.mem_singleton.mp mem ▸ inside)
  | optional inner => exact .optional (List.mem_singleton.mp mem ▸ inside)
  | annotated inner checks => exact .annotated (List.mem_singleton.mp mem ▸ inside)
  | tuple positions => exact .tuple mem inside
  | union members => exact .union mem inside
  | model name fields =>
      obtain ⟨field, among, rfl⟩ := List.mem_map.mp mem
      exact .model among inside
  | _ => cases mem

/-- A property of the schema and of every schema inside it. -/
def Everywhere (property : Schema → Prop) (schema : Schema) : Prop :=
  ∀ part, Occurs part schema → property part

variable {property : Schema → Prop}

theorem Everywhere.here {schema : Schema} (everywhere : schema.Everywhere property) :
    property schema :=
  everywhere schema .here

theorem Everywhere.child {schema child : Schema} (everywhere : schema.Everywhere property)
    (mem : child ∈ schema.children) : child.Everywhere property :=
  fun part inside => everywhere part (.of_child mem inside)

theorem everywhere_iff {schema : Schema} :
    schema.Everywhere property ↔
      property schema ∧ ∀ child ∈ schema.children, child.Everywhere property := by
  refine ⟨fun everywhere => ⟨everywhere.here, fun _ => everywhere.child⟩, ?_⟩
  rintro ⟨here, below⟩ part occurs
  cases occurs with
  | here => exact here
  | list inside | dict inside | optional inside | annotated inside =>
      exact below _ (List.mem_singleton.mpr rfl) part inside
  | tuple mem inside | union mem inside => exact below _ mem part inside
  | model mem inside => exact below _ (List.mem_map_of_mem mem) part inside

end Containment.Schema
