import Containment.Proofs.Schema.Acceptance

namespace Containment.Schema

/-! Lists and maps of one type. A list is read like a tuple with that type at each of its
positions, and a map like a model with a field of that type for each of its names. -/

theorem validatePositions_replicate (item : Schema) (items : List Value) (location : Location) :
    validatePositions (List.replicate items.length item) items location 0 =
      items.mapIdx fun position part => item.validate part (location.index position) := by
  rw [validatePositions_eq_mapIdx]
  apply List.ext_getElem
  · rw [List.length_mapIdx, List.length_mapIdx, List.length_replicate]
  · intro position _ within
    rw [List.length_mapIdx] at within
    rw [List.getElem_mapIdx, List.getElem_mapIdx, List.getElem_replicate, Nat.zero_add,
      List.getElem?_eq_getElem within, positionOutcome]

theorem validate_list_eq_tuple (item : Schema) (items : List Value) (location : Location) :
    (Schema.list item).validate (.list items) location =
      (Schema.tuple (List.replicate items.length item)).validate (.list items) location := by
  have fits : surplusItems (List.replicate items.length item).length items location = [] := by
    exact (surplusItems_eq_nil_iff location).mpr (Nat.le_of_eq List.length_replicate.symm)
  rw [validate, validate, validatePositions_replicate, fits, List.append_nil]

/-- The fields of a model that wants every name of a map, each with one schema. -/
def fieldsOfNames (item : Schema) (entries : Entries Value) : List (String × Slot Schema) :=
  entries.names.map fun name => (name, .required item)

theorem fieldOutcome_required {item : Schema} {entries : Entries Value}
    (distinct : entries.names.Nodup) {entry : String × Value} (mem : entry ∈ entries)
    (location : Location) :
    fieldOutcome entries location (entry.1, .required item) =
      (item.validate entry.2 (location.field entry.1)).map (entry.1, ·) :=
  fieldOutcome_of_lookup? rfl (Entries.lookup?_of_mem distinct mem) location

theorem validate_dict_eq_model (item : Schema) {entries : List (String × Value)}
    (distinct : (Entries.names entries).Nodup) (name : String) (location : Location) :
    (Schema.dict item).validate (.map entries) location =
      (Schema.model name (fieldsOfNames item entries)).validate (.map entries) location := by
  rw [validate, validate, Value.fields?]
  simp only [validateFields_eq_map, fieldsOfNames, Entries.names, List.map_map]
  congr 2
  apply List.map_congr_left
  intro entry mem
  exact (fieldOutcome_required distinct mem location).symm

/-- A list is read like a tuple of as many positions, and a map like a model of its names, with
the same output and the same mismatches in the same order. The names of a map are distinct, as
`Entries.insert` keeps them. -/
theorem homogeneous_like_expansion (item : Schema) (location : Location) :
    (∀ items : List Value,
      (Schema.list item).validate (.list items) location =
        (Schema.tuple (List.replicate items.length item)).validate (.list items) location) ∧
    ∀ (entries : List (String × Value)), (Entries.names entries).Nodup → ∀ name,
      (Schema.dict item).validate (.map entries) location =
        (Schema.model name (fieldsOfNames item entries)).validate (.map entries) location :=
  ⟨fun items => validate_list_eq_tuple item items location,
    fun _ distinct name => validate_dict_eq_model item distinct name location⟩

/-- Two of three parts are no numbers. -/
theorem homogeneous_like_expansion_of_mixed :
    let items : List Value := [.str "x", .str "7", .null]
    let entries : List (String × Value) := [("b", .str "x"), ("a", .str "7"), ("c", .null)]
    (Entries.names entries).Nodup ∧
      (∃ report, (Schema.tuple [.scalar .int, .scalar .int, .scalar .int]).validate (.list items)
          [.field "at"] = .error report ∧
        report.locations = [[.field "at", .index 0], [.field "at", .index 2]] ∧
        (Schema.list (.scalar .int)).validate (.list items) [.field "at"] = .error report) ∧
      ∃ report, (Schema.model "M" [("b", .required (.scalar .int)),
          ("a", .required (.scalar .int)), ("c", .required (.scalar .int))]).validate
          (.map entries) [.field "at"] = .error report ∧
        report.locations = [[.field "at", .field "b"], [.field "at", .field "c"]] ∧
        (Schema.dict (.scalar .int)).validate (.map entries) [.field "at"] = .error report := by
  intro items entries
  obtain ⟨lists, maps⟩ := homogeneous_like_expansion (.scalar .int) [.field "at"]
  have distinct : (Entries.names entries).Nodup := by decide
  exact ⟨distinct, ⟨_, rfl, rfl, lists items⟩, ⟨_, rfl, rfl, maps entries distinct "M"⟩⟩

end Containment.Schema
