import Containment.Proofs.Schema.Validation

namespace Containment

/-! Validation that stops at the first mismatch. To go on and report every mismatch changes
neither what is accepted nor which mismatch comes first. -/

namespace Report

variable {α β : Type}

/-- An outcome with the first mismatch in place of the report. -/
def firstOnly (outcome : Except Report α) : Except Mismatch α :=
  outcome.mapError first

@[simp]
theorem firstOnly_ok (a : α) : firstOnly (.ok a) = .ok a := rfl

@[simp]
theorem firstOnly_error (report : Report) :
    firstOnly (.error report : Except Report α) = .error report.first := rfl

theorem firstOnly_map (make : α → β) (outcome : Except Report α) :
    firstOnly (outcome.map make) = firstOnly outcome >>= fun a => pure (make a) := by
  cases outcome <;> rfl

theorem firstOnly_gather_cons (outcome : Except Report α) (rest : List (Except Report α)) :
    firstOnly (gather (outcome :: rest)) = do
      let value ← firstOnly outcome
      let values ← firstOnly (gather rest)
      return value :: values := by
  cases outcome with
  | ok value =>
      rw [gather]
      cases gather rest <;> rfl
  | error report =>
      rw [gather]
      cases gather rest <;> rfl

theorem firstOnly_gather_map (f : β → Except Report α) (list : List β) :
    firstOnly (gather (list.map f)) = list.mapM fun b => firstOnly (f b) := by
  induction list with
  | nil => rfl
  | cons b rest ih => rw [List.map_cons, firstOnly_gather_cons, ih, List.mapM_cons]

theorem firstOnly_gather_append (outcomes others : List (Except Report α)) :
    firstOnly (gather (outcomes ++ others)) = do
      let values ← firstOnly (gather outcomes)
      let more ← firstOnly (gather others)
      return values ++ more := by
  induction outcomes with
  | nil =>
      rw [List.nil_append]
      cases gather others <;> rfl
  | cons outcome rest ih =>
      rw [List.cons_append, firstOnly_gather_cons, firstOnly_gather_cons, ih]
      cases outcome with
      | error report => rfl
      | ok value =>
          cases gather rest with
          | error report => rfl
          | ok values => cases gather others <;> rfl

/-- Once some outcome is a report, the next one does not come first. -/
theorem firstOnly_choose_cons (lastResort : α) (report other : Report)
    (outcomes : List (Except Report α)) :
    firstOnly (choose lastResort (.error report :: .error other :: outcomes)) =
      firstOnly (choose lastResort (.error report :: outcomes)) := by
  cases outcomes with
  | nil => rfl
  | cons outcome rest =>
      simp only [choose]
      cases choose lastResort (outcome :: rest) <;> rfl

end Report

namespace Schema

open Report (firstOnly firstOnly_map firstOnly_gather_cons firstOnly_gather_map
  firstOnly_gather_append firstOnly_choose_cons)

def rejectWith (fault : Fault) (value : Value) (location : Location) : Except Mismatch Value :=
  .error (fault.mismatch location (some value))

/-- Runs the checks in turn, up to the first that rejects. -/
def failFastChecks (checks : List Check) (value : Value) (location : Location) :
    Except Mismatch Value :=
  checks.foldlM (fun value check =>
    match check.run value with
    | .ok next => .ok next
    | .error reason => rejectWith (.rejected reason) value location) value

/-- Rejects the first item beyond a limit. -/
def failFastSurplus (limit : Nat) (items : List Value) (location : Location) :
    Except Mismatch Unit :=
  match items[limit]? with
  | some item =>
      .error ((Fault.surplus limit items.length).mismatch (location.index limit) (some item))
  | none => .ok ()

mutual
/-- By the rules of `validate`, in its order, up to the first mismatch. -/
def failFast : Schema → Value → Location → Except Mismatch Value
  | .any, value, _ => .ok value
  | .scalar type, value, location =>
      match type.coerce value with
      | .ok result => .ok result
      | .error fault => rejectWith fault value location
  | .enumeration type, value, location =>
      match type.coerce value with
      | .ok result => .ok result
      | .error fault => rejectWith fault value location
  | .anyMember, value, location =>
      match value with
      | .member .. => .ok value
      | _ => rejectWith (.notInstance "Enum") value location
  | .instanceOf typeName, value, location =>
      if value.typeName = typeName then .ok value
      else rejectWith (.notInstance typeName) value location
  | .literal alternatives, value, location =>
      if alternatives.any (·.accepts value) then .ok value
      else rejectWith (.notLiteral alternatives) value location
  | .list item, value, location =>
      match value with
      | .list items => do
          let parts ← items.zipIdx.mapM fun (part, position) =>
            item.failFast part (location.index position)
          return .list parts
      | _ => rejectWith .notList value location
  | .tuple positions, value, location =>
      match value with
      | .list items => do
          let parts ← failFastPositions positions items location 0
          failFastSurplus positions.length items location
          return .list parts
      | _ => rejectWith .notTuple value location
  | .dict item, value, location =>
      match value with
      | .map entries => do
          let parts ← entries.mapM fun (name, part) => do
            let result ← item.failFast part (location.field name)
            return (name, result)
          return .map parts
      | _ => rejectWith .notDict value location
  | .optional inner, value, location =>
      if value.isNull then .ok .null else inner.failFast value location
  | .union members, value, location =>
      match failFastExact? members value location with
      | some result => .ok result
      | none => failFastAlternatives members value location none
  | .annotated inner checks, value, location => do
      let result ← inner.failFast value location
      failFastChecks checks result location
  | .model name fields, value, location =>
      match value.fields? with
      | some entries => do
          let parts ← failFastFields fields entries location
          return .map parts
      | none => rejectWith (.notModel name) value location

def failFastPositions : List Schema → List Value → Location → Nat →
    Except Mismatch (List Value)
  | [], _, _, _ => .ok []
  | schema :: rest, items, location, position => do
      let part ← match items with
        | item :: _ => schema.failFast item (location.index position)
        | [] => .error ((Fault.missing schema.render).mismatch (location.index position) none)
      let parts ← failFastPositions rest items.tail location (position + 1)
      return part :: parts

def failFastExact? : List Schema → Value → Location → Option Value
  | [], _, _ => none
  | schema :: rest, value, location =>
      if schema.isExact value then
        match schema.failFast value location with
        | .ok result => some result
        | .error _ => failFastExact? rest value location
      else failFastExact? rest value location

/-- The result of the first member that accepts. A rejection by one member only counts when
all others reject too, so that the first mismatch so far is carried along. -/
def failFastAlternatives : List Schema → Value → Location → Option Mismatch →
    Except Mismatch Value
  | [], value, _, none => .ok value
  | [], _, _, some first => .error first
  | schema :: rest, value, location, first? =>
      match schema.failFast value (location.field schema.render) with
      | .ok result => .ok result
      | .error mismatch => failFastAlternatives rest value location (first?.or (some mismatch))

def failFastFields : List (String × Slot Schema) → Entries Value → Location →
    Except Mismatch (List (String × Value))
  | [], _, _ => .ok []
  | (name, ⟨schema, default?, alias?⟩) :: rest, entries, location => do
      let part ← match fieldValue? name alias? entries, default? with
        | some part, _ => schema.failFast part (location.field (alias?.getD name))
        | none, some default => .ok default
        | none, none =>
            .error ((Fault.missing schema.render).mismatch
              (location.field (alias?.getD name)) none)
      let parts ← failFastFields rest entries location
      return (name, part) :: parts
end

theorem failFastChecks_eq (checks : List Check) (value : Value) (location : Location) :
    failFastChecks checks value location = firstOnly (runChecks checks value location) := by
  induction checks generalizing value with
  | nil => rfl
  | cons check rest ih =>
      rw [failFastChecks, List.foldlM_cons, runChecks]
      cases check.run value with
      | ok next => exact ih next
      | error reason => rfl

theorem firstOnly_gather_surplus (outcomes : List (Except Report Value)) (limit : Nat)
    (items : List Value) (location : Location) :
    firstOnly (Report.gather (outcomes ++ surplusItems limit items location)) = do
      let values ← firstOnly (Report.gather outcomes)
      failFastSurplus limit items location
      return values := by
  rw [firstOnly_gather_append, failFastSurplus, surplusItems]
  by_cases within : limit < items.length
  · rw [List.getElem?_eq_getElem within, List.drop_eq_getElem_cons (by simpa), List.map_cons,
      firstOnly_gather_cons, List.getElem_zipIdx, Nat.zero_add]
    rfl
  · rw [List.getElem?_eq_none (Nat.le_of_not_lt within),
      List.drop_eq_nil_of_le (by simpa using within)]
    cases Report.gather outcomes with
    | error report => rfl
    | ok values => exact congrArg Except.ok (List.append_nil values)

def ReportsFirst (schema : Schema) : Prop :=
  ∀ value location, schema.failFast value location = firstOnly (schema.validate value location)

theorem failFastPositions_eq {positions : List Schema}
    (each : ∀ schema ∈ positions, ReportsFirst schema) (items : List Value) (location : Location)
    (position : Nat) :
    failFastPositions positions items location position =
      firstOnly (Report.gather (validatePositions positions items location position)) := by
  induction positions generalizing items position with
  | nil => rfl
  | cons schema rest ih =>
      obtain ⟨head, tail⟩ := List.forall_mem_cons.mp each
      cases items with
      | nil =>
          simp only [failFastPositions, validatePositions]
          rw [firstOnly_gather_cons]
          rfl
      | cons item items =>
          simp only [failFastPositions, validatePositions]
          rw [firstOnly_gather_cons, head, ih tail]

theorem failFastExact?_eq {members : List Schema} (each : ∀ schema ∈ members, ReportsFirst schema)
    (value : Value) (location : Location) :
    failFastExact? members value location = validateExact? members value location := by
  induction members with
  | nil => rfl
  | cons schema rest ih =>
      obtain ⟨head, tail⟩ := List.forall_mem_cons.mp each
      rw [failFastExact?, validateExact?, head value, ih tail]
      cases schema.validate value location <;> rfl

/-- With a rejection behind, the first mismatch is the one of that rejection. -/
theorem failFastAlternatives_some {members : List Schema}
    (each : ∀ schema ∈ members, ReportsFirst schema) (value : Value) (location : Location)
    (report : Report) :
    failFastAlternatives members value location (some report.first) =
      firstOnly (Report.choose value
        (.error report :: validateAlternatives members value location)) := by
  induction members with
  | nil => rfl
  | cons schema rest ih =>
      obtain ⟨head, tail⟩ := List.forall_mem_cons.mp each
      rw [failFastAlternatives, validateAlternatives, head value]
      cases schema.validate value (location.field schema.render) with
      | ok result => rfl
      | error other =>
          rw [firstOnly_choose_cons]
          exact ih tail

theorem failFastAlternatives_none {members : List Schema}
    (each : ∀ schema ∈ members, ReportsFirst schema) (value : Value) (location : Location) :
    failFastAlternatives members value location none =
      firstOnly (Report.choose value (validateAlternatives members value location)) := by
  cases members with
  | nil => rfl
  | cons schema rest =>
      obtain ⟨head, tail⟩ := List.forall_mem_cons.mp each
      rw [failFastAlternatives, validateAlternatives, head value]
      cases schema.validate value (location.field schema.render) with
      | ok result => rfl
      | error report => exact failFastAlternatives_some tail value location report

theorem failFastFields_eq {fields : List (String × Slot Schema)}
    (each : ∀ field ∈ fields, ReportsFirst field.2.schema) (entries : Entries Value)
    (location : Location) :
    failFastFields fields entries location =
      firstOnly (Report.gather (validateFields fields entries location)) := by
  induction fields with
  | nil => rfl
  | cons field rest ih =>
      obtain ⟨name, schema, default?, alias?⟩ := field
      obtain ⟨head, tail⟩ := List.forall_mem_cons.mp each
      cases found : fieldValue? name alias? entries with
      | some part =>
          simp only [failFastFields, validateFields, found]
          rw [firstOnly_gather_cons, firstOnly_map, head, ih tail]
          simp only [bind_assoc, pure_bind]
      | none =>
          simp only [failFastFields, validateFields, found]
          rw [firstOnly_gather_cons, ih tail]
          cases default? <;> rfl

theorem failFast_eq (schema : Schema) : ReportsFirst schema := by
  intro value location
  induction schema generalizing value location with
  | any => rfl
  | scalar type =>
      simp only [failFast, validate, judge]
      cases type.coerce value <;> rfl
  | enumeration type =>
      simp only [failFast, validate, judge]
      cases type.coerce value <;> rfl
  | anyMember => cases value <;> rfl
  | instanceOf typeName =>
      simp only [failFast, validate]
      split <;> rfl
  | literal alternatives =>
      simp only [failFast, validate]
      split <;> rfl
  | list item ih =>
      cases value with
      | list items =>
          simp only [failFast, validate]
          rw [firstOnly_map, List.mapIdx_eq_zipIdx_map, firstOnly_gather_map]
          simp only [ih]
      | _ => rfl
  | tuple positions ih =>
      cases value with
      | list items =>
          simp only [failFast, validate]
          rw [firstOnly_map, firstOnly_gather_surplus, failFastPositions_eq ih]
          simp only [bind_assoc, pure_bind]
      | _ => rfl
  | dict item ih =>
      cases value with
      | map entries =>
          simp only [failFast, validate]
          rw [firstOnly_map, firstOnly_gather_map]
          simp only [ih, firstOnly_map]
      | _ => rfl
  | optional inner ih =>
      simp only [failFast, validate]
      split
      · rfl
      · exact ih value location
  | union members ih =>
      simp only [failFast, validate]
      -- A member can be asked twice, at the location itself and at one that names it.
      rw [failFastExact?_eq ih]
      cases validateExact? members value location with
      | some result => rfl
      | none => exact failFastAlternatives_none ih value location
  | annotated inner checks ih =>
      simp only [failFast, validate]
      rw [ih]
      cases inner.validate value location with
      | error report => rfl
      | ok result => exact failFastChecks_eq checks result location
  | model name fields ih =>
      simp only [failFast, validate]
      cases value.fields? with
      | none => rfl
      | some entries =>
          simp only []
          rw [firstOnly_map, failFastFields_eq ih]

/-- To stop at the first mismatch gives the same verdict, the same accepted value, and the first
mismatch of the report. -/
theorem failFast_reports_first (schema : Schema) (value : Value) (location : Location) :
    (∀ result, schema.validate value location = .ok result ↔
        schema.failFast value location = .ok result) ∧
      ∀ mismatch, schema.failFast value location = .error mismatch ↔
        ∃ report, schema.validate value location = .error report ∧ report.first = mismatch := by
  rw [failFast_eq]
  cases schema.validate value location <;> simp

/-- A position comes before the surplus, and a rejection waits for the members after it. -/
example :
    (Schema.tuple [.union [.scalar .int, .scalar .date], .scalar .int]).failFast
        (.list [.null, .int 1, .int 2]) Location.root =
      .error (Fault.notInt.mismatch [.index 0, .field "int"] (some .null)) := rfl

end Schema

end Containment
