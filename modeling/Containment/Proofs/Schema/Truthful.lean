import Containment.Proofs.Schema.Occurrence
import Containment.Proofs.Schema.Validation
import Containment.Proofs.Value.Part

namespace Containment

/-! What mismatches say of a value is so: each shows the part that its location leads to, or
reports a part that is missing there. -/

/-- The mismatch shows the part of the value at the end of a way, or says that there is none
where a list, a map or an object could have one. -/
inductive Mismatch.TrueAt (value : Value) (mismatch : Mismatch) : Location → Prop where
  | shown {path : Location} {part : Value} (leads : value.part? path = some part)
      (got : mismatch.got? = some part.render) : TrueAt value mismatch path
  | missing {above : Location} {segment : Segment} {whole : Value}
      (leads : value.part? above = some whole) (lacks : whole.Lacks segment)
      (kind : mismatch.kind = "missing") (got : mismatch.got? = none) :
      TrueAt value mismatch (above.push segment)

theorem Mismatch.TrueAt.of_child {value child : Value} {segment : Segment} {mismatch : Mismatch}
    {path : Location} (found : value.child? segment = some child)
    (holds : mismatch.TrueAt child path) : mismatch.TrueAt value (segment :: path) := by
  cases holds with
  | shown leads got => exact .shown ((Value.part?_cons found).trans leads) got
  | missing leads lacks kind got =>
      rw [Location.push, ← List.cons_append]
      exact .missing ((Value.part?_cons found).trans leads) lacks kind got

/-- Every mismatch of the outcome is located under the place of the value, and true there. -/
def Truthful {α : Type} (value : Value) (place : Location) (outcome : Except Report α) : Prop :=
  ∀ mismatch ∈ Report.mismatches outcome,
    ∃ path, mismatch.location = place ++ path ∧ mismatch.TrueAt value path

namespace Truthful

variable {α β : Type} {value child : Value} {place : Location} {segment : Segment}

theorem ok (a : α) : Truthful value place (.ok a) :=
  fun _ mem => nomatch mem

theorem single {mismatch : Mismatch} {path : Location}
    (located : mismatch.location = place ++ path) (holds : mismatch.TrueAt value path) :
    Truthful value place (.error (.single mismatch) : Except Report α) := by
  intro other mem
  rw [List.mem_singleton.mp mem]
  exact ⟨path, located, holds⟩

theorem report (fault : Fault) :
    Truthful value place (.error (fault.report value place) : Except Report α) :=
  single (List.append_nil place).symm (.shown rfl rfl)

theorem missing (schema : Schema) (lacks : value.Lacks segment) :
    Truthful value place (.error (schema.missing (place.push segment)) : Except Report α) := by
  have leads : value.part? Location.root = some value := rfl
  exact single rfl (.missing leads lacks rfl rfl)

theorem of_child {outcome : Except Report α} (found : value.child? segment = some child)
    (truthful : Truthful child (place.push segment) outcome) : Truthful value place outcome := by
  intro mismatch mem
  obtain ⟨path, located, holds⟩ := truthful mismatch mem
  refine ⟨segment :: path, ?_, holds.of_child found⟩
  rw [located, Location.push, List.append_assoc, List.singleton_append]

theorem map {outcome : Except Report α} (make : α → β) (truthful : Truthful value place outcome) :
    Truthful value place (outcome.map make) := by
  rwa [Truthful, Report.mismatches_map]

theorem gather {outcomes : List (Except Report α)}
    (each : ∀ outcome ∈ outcomes, Truthful value place outcome) :
    Truthful value place (Report.gather outcomes) := by
  intro mismatch mem
  rw [Report.mismatches_gather] at mem
  obtain ⟨outcome, among, mem⟩ := List.mem_flatMap.mp mem
  exact each outcome among mismatch mem

end Truthful

namespace Schema

/-- Nothing but the value itself shows in locations: no label of an alternative, no alias, and
no check of a value that was read rather than given. -/
def IsDirect : Schema → Prop
  | .union _ => False
  | .annotated _ _ => False
  | .model _ fields => ∀ field ∈ fields, field.2.alias? = none
  | _ => True

variable {value : Value} {place : Location}

theorem truthful_judge (outcome : Except Fault Value) :
    Truthful value place (judge outcome value place) := by
  cases outcome with
  | ok result => exact .ok result
  | error fault => exact .report fault

theorem truthful_surplusItems {limit : Nat} {items : List Value} :
    ∀ outcome ∈ surplusItems limit items place, Truthful (.list items) place outcome := by
  intro outcome mem
  obtain ⟨⟨item, position⟩, among, rfl⟩ := List.mem_map.mp mem
  have found := List.mem_zipIdx_iff_getElem?.mp (List.mem_of_mem_drop among)
  exact .of_child (Value.child?_index found) (.report _)

theorem truthful_positionOutcome {schema : Schema} {items : List Value} {position : Nat}
    (ih : ∀ item, items[position]? = some item →
      Truthful item (place.index position) (schema.validate item (place.index position))) :
    Truthful (.list items) place
      (schema.positionOutcome (place.index position) items[position]?) := by
  cases found : items[position]? with
  | none => exact .missing schema (.item (List.getElem?_eq_none_iff.mp found))
  | some item => exact .of_child (Value.child?_index found) (ih item found)

theorem truthful_fieldOutcome {entries : Entries Value} {field : String × Slot Schema}
    (named : value.fields? = some entries) (unaliased : field.2.alias? = none)
    (ih : ∀ part, Entries.lookup? field.1 entries = some part →
      Truthful part (place.field field.1) (field.2.schema.validate part (place.field field.1))) :
    Truthful value place (fieldOutcome entries place field) := by
  rw [fieldOutcome_of_unaliased unaliased]
  cases found : Entries.lookup? field.1 entries with
  | some part =>
      exact .of_child (Value.child?_field named found) ((ih part found).map _)
  | none =>
      cases field.2.default? with
      | some default => exact .ok _
      | none =>
          refine .missing field.2.schema (.field named ?_)
          rw [Value.field?, named, Option.bind_some, found]

theorem validate_truthful {schema : Schema} (direct : schema.Everywhere IsDirect)
    (keyed : value.wellKeyed = true) :
    Truthful value place (schema.validate value place) := by
  induction schema generalizing value place with
  | any => exact .ok value
  | scalar type =>
      rw [validate]
      exact truthful_judge _
  | enumeration type =>
      rw [validate]
      exact truthful_judge _
  | anyMember =>
      cases value with
      | member => exact .ok _
      | _ => exact .report _
  | instanceOf typeName =>
      rw [validate]
      split
      · exact .ok value
      · exact .report _
  | literal alternatives =>
      rw [validate]
      split
      · exact .ok value
      · exact .report _
  | list item ih =>
      cases value with
      | list items =>
          rw [validate]
          refine .map _ (.gather fun outcome mem => ?_)
          obtain ⟨position, within, rfl⟩ := List.mem_mapIdx.mp mem
          have found := List.getElem?_eq_getElem within
          rw [Value.wellKeyed, Value.wellKeyedItems_iff] at keyed
          exact .of_child (Value.child?_index found)
            (ih (direct.child (.head _)) (keyed _ (List.getElem_mem within)))
      | _ => exact .report _
  | tuple positions ih =>
      cases value with
      | list items =>
          rw [validate, validatePositions_eq_mapIdx]
          refine .map _ (.gather fun outcome mem => ?_)
          rcases List.mem_append.mp mem with mem | mem
          · obtain ⟨position, within, rfl⟩ := List.mem_mapIdx.mp mem
            rw [Value.wellKeyed, Value.wellKeyedItems_iff] at keyed
            rw [Nat.zero_add]
            apply truthful_positionOutcome
            intro item found
            have mem := List.getElem_mem within
            exact ih _ mem (direct.child mem) (keyed item (List.mem_of_getElem? found))
          · exact truthful_surplusItems outcome mem
      | _ => exact .report _
  | dict item ih =>
      cases value with
      | map entries =>
          rw [validate]
          obtain ⟨distinct, keyed⟩ := Value.wellKeyed_fields keyed rfl
          refine .map _ (.gather fun outcome mem => ?_)
          obtain ⟨⟨name, part⟩, among, rfl⟩ := List.mem_map.mp mem
          have found := Entries.lookup?_of_mem distinct among
          exact .of_child (Value.child?_field rfl found)
            ((ih (direct.child (.head _)) (keyed _ among)).map _)
      | _ => exact .report _
  | optional inner ih =>
      rw [validate]
      split
      · exact .ok _
      · exact ih (direct.child (.head _)) keyed
  | union members _ => exact direct.here.elim
  | annotated inner checks _ => exact direct.here.elim
  | model name fields ih =>
      rw [validate]
      cases named : value.fields? with
      | none => exact .report _
      | some entries =>
          obtain ⟨-, keyed⟩ := Value.wellKeyed_fields keyed named
          simp only [validateFields_eq_map]
          refine .map _ (.gather fun outcome mem => ?_)
          obtain ⟨field, among, rfl⟩ := List.mem_map.mp mem
          apply truthful_fieldOutcome named (direct.here field among)
          intro part found
          exact ih field among (direct.child (List.mem_map_of_mem among))
            (keyed _ (Entries.mem_of_lookup? found))

/-- Each mismatch shows the part that its location leads to, or says that it is missing there.
The names of a map or an object are distinct, as `Entries.insert` keeps them, so that a way
leads to one part. -/
theorem mismatches_truthful (schema : Schema) (direct : schema.Everywhere IsDirect)
    (value : Value) (keyed : value.wellKeyed = true) (start : Location) (report : Report)
    (failed : schema.validate value start = .error report) :
    ∀ mismatch ∈ report.toList,
      ∃ path, mismatch.location = start ++ path ∧ mismatch.TrueAt value path := by
  intro mismatch mem
  have truthful : Truthful value start (schema.validate value start) :=
    validate_truthful direct keyed
  rw [failed] at truthful
  exact truthful mismatch mem

/-- A field without a value, an item that is no number, and a tuple too short. -/
theorem mismatches_truthful_of_order :
    let schema : Schema := .model "Order" [("id", .required (.scalar .int)),
      ("lines", .required (.list (.tuple [.scalar .str, .scalar .int])))]
    let value : Value := .map [("lines",
      .list [.list [.str "tea", .str "two"], .list [.str "milk"]])]
    schema.Everywhere IsDirect ∧ value.wellKeyed = true ∧
      ∃ report, schema.validate value [.field "input"] = .error report ∧ report.size = 3 ∧
        ∀ mismatch ∈ report.toList,
          ∃ path, mismatch.location = [.field "input"] ++ path ∧ mismatch.TrueAt value path := by
  intro schema value
  have scalar (type : Scalar) : (Schema.scalar type).Everywhere IsDirect :=
    everywhere_iff.mpr ⟨trivial, fun _ mem => nomatch mem⟩
  have line : (Schema.tuple [.scalar .str, .scalar .int]).Everywhere IsDirect :=
    everywhere_iff.mpr ⟨trivial, by simp [children, scalar]⟩
  have lines : (Schema.list (.tuple [.scalar .str, .scalar .int])).Everywhere IsDirect :=
    everywhere_iff.mpr ⟨trivial, by simpa [children] using line⟩
  have direct : schema.Everywhere IsDirect :=
    everywhere_iff.mpr ⟨by simp [schema, IsDirect, Slot.required],
      by simp [schema, children, Slot.required, scalar, lines]⟩
  have keyed : value.wellKeyed = true := rfl
  obtain ⟨report, failed, three⟩ : ∃ report,
      schema.validate value [.field "input"] = .error report ∧ report.size = 3 :=
    ⟨_, rfl, rfl⟩
  exact ⟨direct, keyed, report, failed, three,
    mismatches_truthful schema direct value keyed _ report failed⟩

end Schema

end Containment
