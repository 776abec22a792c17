import Containment.Proofs.Value.Shown
import Containment.Schema

namespace Containment

/-! Schemas as their texts show them. There are values in literals, in the members of
enumerations, and in the defaults of fields. -/

namespace Literal

def asShown : Literal → Literal
  | .member enumeration name payload => .member enumeration name payload.asShown
  | other => other

theorem toValue_asShown (literal : Literal) :
    literal.asShown.toValue = literal.toValue.asShown := by
  cases literal <;> rfl

end Literal

def EnumType.asShown (type : EnumType) : EnumType :=
  ⟨type.name, type.members.map (Prod.map id Value.asShown)⟩

namespace Schema

mutual
def asShown : Schema → Schema
  | .enumeration type => .enumeration type.asShown
  | .literal alternatives => .literal (alternatives.map Literal.asShown)
  | .list item => .list item.asShown
  | .tuple positions => .tuple (allAsShown positions)
  | .dict item => .dict item.asShown
  | .optional inner => .optional inner.asShown
  | .union members => .union (allAsShown members)
  | .annotated inner checks => .annotated inner.asShown checks
  | .model name fields => .model name (fieldsAsShown fields)
  | other => other

def allAsShown : List Schema → List Schema
  | [] => []
  | schema :: rest => schema.asShown :: allAsShown rest

def fieldsAsShown : List (String × Slot Schema) → List (String × Slot Schema)
  | [] => []
  | (name, ⟨schema, default?, alias?⟩) :: rest =>
      (name, ⟨schema.asShown, default?.map Value.asShown, alias?⟩) :: fieldsAsShown rest
end

def slotAsShown (slot : Slot Schema) : Slot Schema :=
  ⟨slot.schema.asShown, slot.default?.map Value.asShown, slot.alias?⟩

theorem allAsShown_eq_map (schemas : List Schema) :
    allAsShown schemas = schemas.map asShown := by
  induction schemas with
  | nil => rfl
  | cons schema rest ih => rw [allAsShown, ih, List.map_cons]

theorem fieldsAsShown_eq_map (fields : List (String × Slot Schema)) :
    fieldsAsShown fields = fields.map (Prod.map id slotAsShown) := by
  induction fields with
  | nil => rfl
  | cons field rest ih => rw [fieldsAsShown, ih, List.map_cons, Prod.map_apply, id, slotAsShown]

theorem asShown_tuple (positions : List Schema) :
    (tuple positions).asShown = .tuple (positions.map asShown) := by
  rw [asShown, allAsShown_eq_map]

theorem asShown_union (members : List Schema) :
    (union members).asShown = .union (members.map asShown) := by
  rw [asShown, allAsShown_eq_map]

theorem asShown_model (name : String) (fields : List (String × Slot Schema)) :
    (model name fields).asShown = .model name (fields.map (Prod.map id slotAsShown)) := by
  rw [asShown, fieldsAsShown_eq_map]

mutual
theorem isPlain_asShown : ∀ schema : Schema, schema.asShown.isPlain = schema.isPlain
  | .any | .scalar _ | .enumeration _ | .anyMember | .instanceOf _ | .literal _
  | .annotated _ _ => rfl
  | .list item | .dict item | .optional item => by
      rw [asShown, isPlain, isPlain, isPlain_asShown item]
  | .tuple schemas | .union schemas => by
      rw [asShown, isPlain, isPlain, arePlain_asShown schemas]
  | .model _ fields => by
      rw [asShown, isPlain, isPlain, fieldsArePlain_asShown fields]

theorem arePlain_asShown : ∀ schemas : List Schema,
    arePlain (allAsShown schemas) = arePlain schemas
  | [] => rfl
  | schema :: rest => by
      rw [allAsShown, arePlain, arePlain, isPlain_asShown schema, arePlain_asShown rest]

theorem fieldsArePlain_asShown : ∀ fields : List (String × Slot Schema),
    fieldsArePlain (fieldsAsShown fields) = fieldsArePlain fields
  | [] => rfl
  | (_, ⟨schema, _, _⟩) :: rest => by
      rw [fieldsAsShown, fieldsArePlain, fieldsArePlain, isPlain_asShown schema,
        fieldsArePlain_asShown rest]
end

end Schema

end Containment
