import Containment.Proofs.Schema.Validation

namespace Containment

/-! Where the checks of a schema come from makes no difference to validation. Schemas are
compared without it, as their anonymous forms. -/

def Check.anonymous (check : Check) : Check :=
  { check with origin := .declared 0 }

mutual
def Schema.anonymous : Schema → Schema
  | .list item => .list item.anonymous
  | .tuple positions => .tuple (Schema.allAnonymous positions)
  | .dict item => .dict item.anonymous
  | .optional inner => .optional inner.anonymous
  | .union members => .union (Schema.allAnonymous members)
  | .annotated inner checks => .annotated inner.anonymous (checks.map Check.anonymous)
  | .model name fields => .model name (Schema.fieldsAnonymous fields)
  | schema => schema

def Schema.allAnonymous : List Schema → List Schema
  | [] => []
  | schema :: rest => schema.anonymous :: Schema.allAnonymous rest

def Schema.fieldsAnonymous : List (String × Slot Schema) → List (String × Slot Schema)
  | [] => []
  | (name, ⟨schema, default?, alias?⟩) :: rest =>
      (name, ⟨schema.anonymous, default?, alias?⟩) :: Schema.fieldsAnonymous rest
end

def Rule.anonymous (rule : Rule) : Rule :=
  { rule with schema := rule.schema.anonymous }

namespace Schema

theorem allAnonymous_eq_map (schemas : List Schema) :
    allAnonymous schemas = schemas.map anonymous := by
  induction schemas with
  | nil => rfl
  | cons schema rest ih => rw [allAnonymous, ih, List.map_cons]

theorem fieldsAnonymous_eq_map (fields : List (String × Slot Schema)) :
    fieldsAnonymous fields = fields.map fun field => (field.1, Rule.anonymous field.2) := by
  induction fields with
  | nil => rfl
  | cons field rest ih => rw [fieldsAnonymous, ih, List.map_cons, Rule.anonymous]

theorem anonymous_tuple (positions : List Schema) :
    Rule.anonymous (.required (.tuple positions)) =
      .required (.tuple (positions.map anonymous)) := by
  rw [Rule.anonymous, Slot.required, anonymous, allAnonymous_eq_map]
  rfl

theorem anonymous_model (name : String) (fields : List (String × Rule)) :
    Rule.anonymous (.required (.model name fields)) =
      .required (.model name (fields.map (Prod.map id Rule.anonymous))) := by
  rw [Rule.anonymous, Slot.required, anonymous, fieldsAnonymous_eq_map]
  rfl

theorem isExact_anonymous (schema : Schema) (value : Value) :
    schema.anonymous.isExact value = schema.isExact value := by
  induction schema with
  | any | enumeration | anyMember | instanceOf | literal | scalar => rfl
  | list item _ => cases value <;> rfl
  | dict item _ => cases value <;> rfl
  | tuple positions _ => cases value <;> rfl
  | model name fields _ => cases value <;> rfl
  | optional inner ih => simp only [anonymous, isExact, ih]
  | annotated inner checks ih => simp only [anonymous, isExact, ih]
  | union members ih =>
      simp only [anonymous, isExact, allAnonymous_eq_map, anyExact_eq_any, List.any_map]
      rw [Bool.eq_iff_iff, List.any_eq_true, List.any_eq_true]
      exact exists_congr fun schema => and_congr_right fun mem => by
        rw [Function.comp_apply, ih schema mem]

theorem renderAll_anonymous {schemas : List Schema}
    (ih : ∀ schema ∈ schemas, schema.anonymous.render = schema.render) :
    renderAll (allAnonymous schemas) = renderAll schemas := by
  rw [allAnonymous_eq_map, renderAll_eq_map, renderAll_eq_map, List.map_map]
  exact List.map_congr_left ih

theorem render_anonymous (schema : Schema) : schema.anonymous.render = schema.render := by
  induction schema with
  | any | enumeration | anyMember | instanceOf | literal | scalar | model => rfl
  | list item ih | dict item ih | optional inner ih => simp only [anonymous, render, ih]
  | annotated inner checks ih =>
      simp only [anonymous, render, ih, List.map_map]
      rfl
  | tuple positions ih =>
      cases positions with
      | nil => rfl
      | cons first rest =>
          have texts := renderAll_anonymous ih
          rw [allAnonymous] at texts
          simp only [anonymous, allAnonymous, render, texts]
  | union members ih =>
      simp only [anonymous, render, renderAll_anonymous ih]

theorem missing_anonymous (schema : Schema) (location : Location) :
    schema.anonymous.missing location = schema.missing location := by
  rw [missing, missing, render_anonymous]

theorem runChecks_anonymous (checks : List Check) (value : Value) (location : Location) :
    runChecks (checks.map Check.anonymous) value location = runChecks checks value location := by
  induction checks generalizing value with
  | nil => rfl
  | cons check rest ih =>
      rw [List.map_cons, runChecks, runChecks, Check.anonymous]
      cases check.run value with
      | ok next => exact ih next
      | error reason => rfl

theorem validateExact?_anonymous {members : List Schema} (value : Value) (location : Location)
    (ih : ∀ schema ∈ members,
      schema.anonymous.validate value location = schema.validate value location) :
    validateExact? (members.map anonymous) value location =
      validateExact? members value location := by
  induction members with
  | nil => rfl
  | cons schema rest rest_ih =>
      obtain ⟨head, tail⟩ := List.forall_mem_cons.mp ih
      rw [List.map_cons, validateExact?, validateExact?, isExact_anonymous, head, rest_ih tail]

theorem validate_anonymous (schema : Schema) (value : Value) (location : Location) :
    schema.anonymous.validate value location = schema.validate value location := by
  induction schema generalizing value location with
  | any | enumeration | anyMember | instanceOf | literal | scalar => rfl
  | list item ih | dict item ih | optional inner ih => simp only [anonymous, validate, ih]
  | annotated inner checks ih =>
      simp only [anonymous, validate, ih, runChecks_anonymous]
  | tuple positions ih =>
      cases value with
      | list items =>
          simp only [anonymous, allAnonymous_eq_map, validate, validatePositions_eq_mapIdx,
            List.length_map]
          rw [mapIdx_map_eq_mapIdx fun position schema mem => ?_]
          cases items[position]? with
          | none => rw [positionOutcome, positionOutcome, missing_anonymous]
          | some item => exact ih schema mem item _
      | _ => rfl
  | union members ih =>
      simp only [anonymous, allAnonymous_eq_map, validate,
        validateExact?_anonymous value location fun schema mem => ih schema mem value location,
        validateAlternatives_eq_map, List.map_map]
      rw [List.map_congr_left fun schema mem => ?_]
      rw [Function.comp_apply, ih schema mem, render_anonymous]
  | model name fields ih =>
      simp only [anonymous, fieldsAnonymous_eq_map, validate, validateFields_eq_map,
        List.map_map]
      cases value.fields? with
      | none => rfl
      | some entries =>
          simp only []
          rw [List.map_congr_left fun field mem => ?_]
          simp only [Function.comp_apply, fieldOutcome, Rule.anonymous, ih field mem,
            missing_anonymous]

theorem validate_eq_of_anonymous {schema other : Schema}
    (same : schema.anonymous = other.anonymous) (value : Value) (location : Location) :
    schema.validate value location = other.validate value location := by
  rw [← validate_anonymous, same, validate_anonymous]

end Schema

end Containment
