import Containment.Proofs.Schema.Acceptance
import Containment.Proofs.Schema.Mismatches

namespace Containment

/-! Fields with an alias. What is read under the alias or else under the name is always reported
under the alias. -/

namespace Report

theorem mismatches_mapError_under {α : Type} (location : Location) (outcome : Except Report α) :
    mismatches (outcome.mapError (under location)) =
      (mismatches outcome).map (Mismatch.under location) := by
  cases outcome <;> rfl

theorem mismatches_eq_nil_iff {α : Type} {outcome : Except Report α} :
    mismatches outcome = [] ↔ ∃ a, outcome = .ok a := by
  cases outcome with
  | ok a => simp
  | error report => simp [toList_ne_nil]

end Report

namespace Schema

variable {value part : Value} {entries : Entries Value} {field : String × Slot Schema}

/-- What a field causes on its own. -/
def fieldMismatches (name : String) (field : String × Slot Schema) (value : Value)
    (location : Location) : List Mismatch :=
  Report.mismatches ((Schema.model name [field]).validate value location)

theorem fieldMismatches_eq (named : value.fields? = some entries) (name : String)
    (location : Location) :
    fieldMismatches name field value location =
      Report.mismatches (fieldOutcome entries location field) := by
  rw [fieldMismatches, mismatches_model named, List.flatMap_singleton]

theorem mismatches_model_by_field (named : value.fields? = some entries) (name : String)
    (fields : List (String × Slot Schema)) (location : Location) :
    Report.mismatches ((Schema.model name fields).validate value location) =
      fields.flatMap fun field => fieldMismatches name field value location := by
  simp only [mismatches_model named, fieldMismatches_eq named]

theorem fieldMismatches_of_read (named : value.fields? = some entries)
    (read : fieldValue? field.1 field.2.alias? entries = some part) (name : String)
    (location : Location) :
    fieldMismatches name field value location =
      (Report.mismatches (field.2.schema.check part)).map
        (Mismatch.under (location.field (field.2.alias?.getD field.1))) := by
  rw [fieldMismatches_eq named, fieldOutcome_of_fieldValue? read, Report.mismatches_map,
    validate_eq_check, Report.mismatches_mapError_under]

theorem field_of_mem_fieldMismatches (named : value.fields? = some entries)
    (read : fieldValue? field.1 field.2.alias? entries = some part) {name : String}
    {location : Location} {mismatch : Mismatch}
    (mem : mismatch ∈ fieldMismatches name field value location) {key : String} :
    location.field key <+: mismatch.location ↔ key = field.2.alias?.getD field.1 := by
  rw [fieldMismatches_of_read named read] at mem
  obtain ⟨original, -, rfl⟩ := List.mem_map.mp mem
  have here : location.field (field.2.alias?.getD field.1) <+:
      (original.under (location.field (field.2.alias?.getD field.1))).location :=
    List.prefix_append _ _
  constructor
  · exact fun there => Segment.field.inj (Location.segment_eq_of_prefix there here)
  · rintro rfl
    exact here

theorem lookup?_alias_iff {name label : String}
    (found : (Entries.lookup? label entries).or (Entries.lookup? name entries) = some part) :
    Entries.lookup? label entries = some part ↔ label ∈ entries.names := by
  cases aliased : Entries.lookup? label entries with
  | none =>
      refine iff_of_false (fun same => nomatch same) ?_
      exact Entries.lookup?_eq_none_iff.mp aliased
  | some other =>
      rw [aliased, Option.some_or] at found
      refine iff_of_true found (Classical.byContradiction fun absent => ?_)
      rw [Entries.lookup?_eq_none_iff.mpr absent] at aliased
      cases aliased

/-- The mismatches of a model are those of its fields. A field with an alias is read under the
alias, or else under its name, and causes the mismatches of what it was read from, each under the
alias and under no other key. So they point at a key with what was read only if the value has the
alias. -/
theorem aliased_field_reported_at_alias (name : String) (fields : List (String × Slot Schema))
    (value : Value) (entries : Entries Value) (named : value.fields? = some entries)
    (start : Location) :
    (Report.mismatches ((Schema.model name fields).validate value start) =
      fields.flatMap fun field => fieldMismatches name field value start) ∧
    ∀ field ∈ fields, ∀ label, field.2.alias? = some label → ∀ part,
      (Entries.lookup? label entries).or (Entries.lookup? field.1 entries) = some part →
      fieldMismatches name field value start =
        (Report.mismatches (field.2.schema.check part)).map
          (Mismatch.under (start.field label)) ∧
      (fieldMismatches name field value start = [] ↔ field.2.schema.Accepts part) ∧
      ∀ mismatch ∈ fieldMismatches name field value start,
        (∀ key, start.field key <+: mismatch.location ↔ key = label) ∧
        ((∃ key, Entries.lookup? key entries = some part ∧
            start.field key <+: mismatch.location) ↔ label ∈ entries.names) := by
  refine ⟨mismatches_model_by_field named name fields start, ?_⟩
  intro field _ label aliased part found
  have read : fieldValue? field.1 field.2.alias? entries = some part := by
    rw [aliased]
    exact found
  have labelled : field.2.alias?.getD field.1 = label := by rw [aliased, Option.getD_some]
  have caused := fieldMismatches_of_read named read name start
  rw [labelled] at caused
  refine ⟨caused, ?_, fun mismatch mem => ?_⟩
  · rw [caused, List.map_eq_nil_iff, Report.mismatches_eq_nil_iff, Accepts]
  · have under (key : String) : start.field key <+: mismatch.location ↔ key = label :=
      labelled ▸ field_of_mem_fieldMismatches named read mem
    refine ⟨under, ?_⟩
    simp only [under, exists_eq_right]
    exact lookup?_alias_iff found

/-- A row that is no number, in a list under the name of the field. -/
theorem aliased_field_reported_at_alias_of_rows :
    let rows : String × Slot Schema :=
      ("rows", (Slot.required (.list (.scalar .int))).withAlias "lines")
    let id : String × Slot Schema := ("id", .required (.scalar .int))
    let entries : Entries Value := [("rows", .list [.int 1, .str "x"]), ("id", .str "7")]
    (Value.map entries).fields? = some entries ∧ rows ∈ [id, rows] ∧
      rows.2.alias? = some "lines" ∧
      (Entries.lookup? "lines" entries).or (Entries.lookup? rows.1 entries) =
        some (.list [.int 1, .str "x"]) ∧
      (∃ report, (Schema.model "Order" [id, rows]).validate (.map entries) [.field "input"] =
          .error report ∧
        report.toList = fieldMismatches "Order" id (.map entries) [.field "input"] ++
          fieldMismatches "Order" rows (.map entries) [.field "input"] ∧
        report.locations = [[.field "input", .field "lines", .index 1]]) ∧
      ∀ mismatch ∈ fieldMismatches "Order" rows (.map entries) [.field "input"],
        ¬ ∃ key, Entries.lookup? key entries = some (.list [.int 1, .str "x"]) ∧
          Location.field [.field "input"] key <+: mismatch.location := by
  intro rows id entries
  obtain ⟨whole, each⟩ := aliased_field_reported_at_alias "Order" [id, rows] (.map entries)
    entries rfl [.field "input"]
  obtain ⟨-, -, located⟩ := each rows (.tail _ (.head _)) "lines" rfl _ rfl
  refine ⟨rfl, .tail _ (.head _), rfl, rfl, ⟨_, rfl, whole, rfl⟩, fun mismatch mem held => ?_⟩
  exact absurd ((located mismatch mem).2.mp held) (by decide)

/-- Under the name there is a number where a text is wanted. It is reported under the alias, which
is no key of the value. -/
theorem alias_reported_without_key :
    let field : String × Slot Schema :=
      ("name", (Slot.required (.scalar .str)).withAlias "userName")
    let entries : Entries Value := [("name", .int 5)]
    Entries.lookup? "userName" entries = none ∧
      Entries.lookup? field.1 entries = some (.int 5) ∧
      ∃ mismatch, (Schema.model "User" [field]).validate (.map entries) Location.root =
          .error (.single mismatch) ∧
        mismatch.location = [.field "userName"] ∧ mismatch.got? = some "5" ∧
        ¬ ∃ key ∈ entries.names, Location.root.field key <+: mismatch.location := by
  intro field entries
  refine ⟨rfl, rfl, _, rfl, rfl, rfl, ?_⟩
  rintro ⟨key, mem, under⟩
  obtain rfl := List.mem_singleton.mp mem
  exact absurd under (by decide)

end Schema

end Containment
