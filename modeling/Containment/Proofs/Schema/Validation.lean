import Containment.Proofs.Induction
import Containment.Proofs.Report
import Containment.Schema.Validation

namespace Containment.Schema

open Report (under)

/-! The outcomes of the parts of a value, and validation seen from further up: a location in
front of everything only shows in the locations of the mismatches. -/

def positionOutcome (schema : Schema) (location : Location) :
    Option Value → Except Report Value
  | some item => schema.validate item location
  | none => .error (schema.missing location)

def fieldOutcome (entries : Entries Value) (location : Location)
    (field : String × Slot Schema) : Except Report (String × Value) :=
  let part := location.field (field.2.alias?.getD field.1)
  match fieldValue? field.1 field.2.alias? entries, field.2.default? with
  | some value, _ => (field.2.schema.validate value part).map (field.1, ·)
  | none, some default => .ok (field.1, default)
  | none, none => .error (field.2.schema.missing part)

/-- What a field is read from is validated at the location of its alias or else its name. -/
theorem fieldOutcome_of_fieldValue? {entries : Entries Value} {field : String × Slot Schema}
    {part : Value} (read : fieldValue? field.1 field.2.alias? entries = some part)
    (location : Location) :
    fieldOutcome entries location field =
      (field.2.schema.validate part (location.field (field.2.alias?.getD field.1))).map
        (field.1, ·) := by
  rw [fieldOutcome, read]

theorem fieldOutcome_of_unaliased {field : String × Slot Schema}
    (unaliased : field.2.alias? = none) (entries : Entries Value) (location : Location) :
    fieldOutcome entries location field =
      match Entries.lookup? field.1 entries, field.2.default? with
      | some part, _ => (field.2.schema.validate part (location.field field.1)).map (field.1, ·)
      | none, some default => .ok (field.1, default)
      | none, none => .error (field.2.schema.missing (location.field field.1)) := by
  rw [fieldOutcome, unaliased]
  rfl

theorem fieldOutcome_of_lookup? {entries : Entries Value} {field : String × Slot Schema}
    {part : Value} (unaliased : field.2.alias? = none)
    (found : Entries.lookup? field.1 entries = some part) (location : Location) :
    fieldOutcome entries location field =
      (field.2.schema.validate part (location.field field.1)).map (field.1, ·) := by
  rw [fieldOutcome_of_unaliased unaliased, found]

theorem validatePositions_eq_mapIdx (positions : List Schema) (items : List Value)
    (location : Location) (start : Nat) :
    validatePositions positions items location start =
      positions.mapIdx fun position schema =>
        positionOutcome schema (location.index (start + position)) items[position]? := by
  induction positions generalizing items start with
  | nil => rfl
  | cons schema rest ih =>
      have tail : ∀ position, start + 1 + position = start + (position + 1) := by omega
      cases items with
      | nil => simp only [validatePositions, ih, List.mapIdx_cons, tail]; rfl
      | cons item items => simp only [validatePositions, ih, List.mapIdx_cons, tail]; rfl

theorem anyExact_eq_any (members : List Schema) (value : Value) :
    anyExact members value = members.any (·.isExact value) := by
  induction members with
  | nil => rfl
  | cons schema rest ih => rw [anyExact, ih, List.any_cons]

theorem validateFields_eq_map (fields : List (String × Slot Schema))
    (entries : Entries Value) (location : Location) :
    validateFields fields entries location = fields.map (fieldOutcome entries location) := by
  induction fields with
  | nil => rfl
  | cons field rest ih =>
      rw [List.map_cons, ← ih]
      rfl

theorem validateAlternatives_eq_map (members : List Schema) (value : Value)
    (location : Location) :
    validateAlternatives members value location =
      members.map fun schema => schema.validate value (location.field schema.render) := by
  induction members with
  | nil => rfl
  | cons schema rest ih => rw [validateAlternatives, ih, List.map_cons]

theorem runChecks_append (checks : List Check) (value : Value) (above location : Location) :
    runChecks checks value (above ++ location) =
      (runChecks checks value location).mapError (under above) := by
  induction checks generalizing value with
  | nil => rfl
  | cons check rest ih =>
      rw [runChecks, runChecks]
      cases check.run value with
      | ok next => exact ih next
      | error reason => rfl

theorem judge_eq_ok_iff {α : Type} {outcome : Except Fault α} {value : Value}
    {location : Location} {result : α} :
    judge outcome value location = .ok result ↔ outcome = .ok result := by
  cases outcome <;> simp [judge]

theorem judge_append {α : Type} (outcome : Except Fault α) (value : Value)
    (above location : Location) :
    judge outcome value (above ++ location) =
      (judge outcome value location).mapError (under above) := by
  cases outcome <;> rfl

theorem surplusItems_append (limit : Nat) (items : List Value) (above location : Location) :
    surplusItems limit items (above ++ location) =
      (surplusItems limit items location).map (Except.mapError (under above)) := by
  simp only [surplusItems, List.map_map, Location.index, ← Location.append_push]
  rfl

theorem positionOutcome_append {schema : Schema} {above : Location}
    (ih : ∀ value location, schema.validate value (above ++ location) =
      (schema.validate value location).mapError (under above))
    (location : Location) (item? : Option Value) :
    schema.positionOutcome (above ++ location) item? =
      (schema.positionOutcome location item?).mapError (under above) := by
  cases item? with
  | none => rfl
  | some item => exact ih item location

theorem fieldOutcome_append {field : String × Slot Schema} {above : Location}
    (ih : ∀ value location, field.2.schema.validate value (above ++ location) =
      (field.2.schema.validate value location).mapError (under above))
    (entries : Entries Value) (location : Location) :
    fieldOutcome entries (above ++ location) field =
      (fieldOutcome entries location field).mapError (under above) := by
  simp only [fieldOutcome, Location.field, ← Location.append_push]
  cases fieldValue? field.1 field.2.alias? entries with
  | none => cases field.2.default? <;> rfl
  | some value =>
      simp only [ih]
      cases field.2.schema.validate value _ <;> rfl

theorem validateExact?_append {members : List Schema} {above : Location}
    (ih : ∀ schema ∈ members, ∀ value location, schema.validate value (above ++ location) =
      (schema.validate value location).mapError (under above))
    (value : Value) (location : Location) :
    validateExact? members value (above ++ location) =
      validateExact? members value location := by
  induction members with
  | nil => rfl
  | cons schema rest rest_ih =>
      obtain ⟨head, tail⟩ := List.forall_mem_cons.mp ih
      rw [validateExact?, validateExact?, head, rest_ih tail]
      cases schema.validate value location <;> rfl

theorem mapIdx_eq_map_mapIdx {α β : Type} {f g : Nat → α → β} {h : β → β} {list : List α}
    (same : ∀ position, ∀ a ∈ list, g position a = h (f position a)) :
    list.mapIdx g = (list.mapIdx f).map h := by
  rw [List.mapIdx_eq_zipIdx_map, List.mapIdx_eq_zipIdx_map, List.map_map]
  exact List.map_congr_left fun pair mem => same pair.2 pair.1 (List.fst_mem_of_mem_zipIdx mem)

theorem mapIdx_map_eq_mapIdx {α β γ : Type} {f : Nat → β → γ} {g : Nat → α → γ} {h : α → β}
    {list : List α} (same : ∀ position, ∀ a ∈ list, f position (h a) = g position a) :
    (list.map h).mapIdx f = list.mapIdx g := by
  rw [List.mapIdx_eq_zipIdx_map, List.mapIdx_eq_zipIdx_map, List.zipIdx_map, List.map_map]
  exact List.map_congr_left fun pair mem => same pair.2 pair.1 (List.fst_mem_of_mem_zipIdx mem)

theorem gather_map_append {α β : Type} {above : Location}
    {outcomes shifted : List (Except Report α)} (make : List α → β)
    (shift : shifted = outcomes.map (Except.mapError (under above))) :
    (Report.gather shifted).map make =
      ((Report.gather outcomes).map make).mapError (under above) := by
  rw [shift, Report.gather_under]
  cases Report.gather outcomes <;> rfl

theorem validate_append (schema : Schema) (value : Value) (above location : Location) :
    schema.validate value (above ++ location) =
      (schema.validate value location).mapError (under above) := by
  induction schema generalizing value location with
  | any => simp only [validate]; rfl
  | scalar type => simp only [validate, judge_append]
  | enumeration type => simp only [validate, judge_append]
  | anyMember => cases value <;> simp only [validate] <;> rfl
  | instanceOf typeName =>
      simp only [validate]
      split <;> rfl
  | literal alternatives =>
      simp only [validate]
      split <;> rfl
  | list item ih =>
      cases value with
      | list items =>
          simp only [validate]
          apply gather_map_append
          apply mapIdx_eq_map_mapIdx
          intro position part _
          simp only [Location.index, ← Location.append_push, ih]
      | _ => simp only [validate]; rfl
  | dict item ih =>
      cases value with
      | map entries =>
          simp only [validate]
          apply gather_map_append
          rw [List.map_map]
          apply List.map_congr_left
          intro entry _
          simp only [Location.field, ← Location.append_push, ih, Function.comp_apply]
          cases item.validate entry.2 _ <;> rfl
      | _ => simp only [validate]; rfl
  | optional inner ih =>
      simp only [validate]
      split
      · rfl
      · exact ih value location
  | annotated inner checks ih =>
      simp only [validate, ih]
      cases inner.validate value location with
      | ok result => exact runChecks_append checks result above location
      | error report => rfl
  | tuple positions ih =>
      cases value with
      | list items =>
          simp only [validate]
          apply gather_map_append
          rw [List.map_append, surplusItems_append, validatePositions_eq_mapIdx,
            validatePositions_eq_mapIdx]
          congr 1
          apply mapIdx_eq_map_mapIdx
          intro position schema mem
          simp only [Location.index, ← Location.append_push]
          exact positionOutcome_append (ih schema mem) _ _
      | _ => simp only [validate]; rfl
  | union members ih =>
      simp only [validate, validateExact?_append fun schema mem value location =>
        ih schema mem value location]
      cases validateExact? members value location with
      | some result => rfl
      | none =>
          simp only []
          rw [← Report.choose_under, validateAlternatives_eq_map, validateAlternatives_eq_map,
            List.map_map]
          congr 1
          apply List.map_congr_left
          intro schema mem
          simp only [Location.field, ← Location.append_push, Function.comp_apply]
          exact ih schema mem value _
  | model name fields ih =>
      simp only [validate]
      cases value.fields? with
      | none => rfl
      | some entries =>
          apply gather_map_append
          rw [validateFields_eq_map, validateFields_eq_map, List.map_map]
          exact List.map_congr_left fun field mem => fieldOutcome_append (ih field mem) _ _

theorem validate_eq_check (schema : Schema) (value : Value) (location : Location) :
    schema.validate value location = (schema.check value).mapError (under location) := by
  have shift := schema.validate_append value location Location.root
  rwa [Location.root, List.append_nil] at shift

/-- Acceptance and the accepted value do not depend on the location. -/
theorem validate_eq_ok_iff {schema : Schema} {value result : Value} {location : Location} :
    schema.validate value location = .ok result ↔ schema.check value = .ok result := by
  rw [validate_eq_check, mapError_eq_ok_iff]

/-- Validation at a location is validation at the root, except that every mismatch is located
under that location. -/
theorem validate_relocated (schema : Schema) (value : Value) (location : Location) :
    (∀ result, schema.validate value location = .ok result ↔
        schema.validate value Location.root = .ok result) ∧
      (∀ report, schema.validate value location = .error report ↔
        ∃ original, schema.validate value Location.root = .error original ∧
          report.toList = original.toList.map fun mismatch =>
            { mismatch with location := location ++ mismatch.location }) ∧
      ∀ report, schema.validate value location = .error report →
        ∀ mismatch ∈ report.toList, location <+: mismatch.location := by
  refine ⟨fun result => validate_eq_ok_iff, fun report => ?_, fun report failed => ?_⟩
  · rw [validate_eq_check, mapError_eq_error_iff]
    refine exists_congr fun original => and_congr_right fun _ => ?_
    exact ⟨fun same => same ▸ Report.toList_under location original,
      fun same => (Report.toList_injective same).symm⟩
  · rw [validate_eq_check, mapError_eq_error_iff] at failed
    obtain ⟨original, -, rfl⟩ := failed
    exact fun mismatch => Report.prefix_of_mem_under

end Containment.Schema
