import Containment.Proofs.Schema.Validation

namespace Containment

/-! What is reported of the parts of a value, and where. -/

/-- What lies under two parts of one place is located in the same part. -/
theorem Location.segment_eq_of_prefix {place location : Location} {segment other : Segment}
    (under : place.push segment <+: location) (under' : place.push other <+: location) :
    segment = other := by
  obtain ⟨rest, rfl⟩ := under
  obtain ⟨rest', same⟩ := under'
  rw [push, push, List.append_assoc, List.append_assoc] at same
  exact (List.cons.inj (List.append_cancel_left same)).1.symm

namespace Schema

theorem prefix_of_mem_mismatches {schema : Schema} {value : Value} {location : Location}
    {mismatch : Mismatch} (mem : mismatch ∈ Report.mismatches (schema.validate value location)) :
    location <+: mismatch.location := by
  rw [validate_eq_check] at mem
  cases outcome : schema.check value with
  | ok result => rw [outcome] at mem; cases mem
  | error report =>
      rw [outcome] at mem
      exact Report.prefix_of_mem_under mem

theorem mismatches_list (item : Schema) (items : List Value) (location : Location) :
    Report.mismatches ((Schema.list item).validate (.list items) location) =
      items.zipIdx.flatMap fun part =>
        Report.mismatches (item.validate part.1 (location.index part.2)) := by
  rw [validate, Report.mismatches_map, Report.mismatches_gather, List.mapIdx_eq_zipIdx_map,
    List.flatMap_map]

theorem mem_mismatches_list_iff {item : Schema} {items : List Value} {location : Location}
    {mismatch : Mismatch} :
    mismatch ∈ Report.mismatches ((Schema.list item).validate (.list items) location) ↔
      ∃ position part, items[position]? = some part ∧
        mismatch ∈ Report.mismatches (item.validate part (location.index position)) := by
  simp only [mismatches_list, List.mem_flatMap, Prod.exists, List.mem_zipIdx_iff_getElem?]
  exact exists_comm

/-- What is reported under a position of a list is what is reported of the item there. -/
theorem mem_mismatches_list_at_iff {item : Schema} {items : List Value} {location : Location}
    {position : Nat} {part : Value} {mismatch : Mismatch} (found : items[position]? = some part) :
    (mismatch ∈ Report.mismatches ((Schema.list item).validate (.list items) location) ∧
        location.index position <+: mismatch.location) ↔
      mismatch ∈ Report.mismatches (item.validate part (location.index position)) := by
  rw [mem_mismatches_list_iff]
  constructor
  · rintro ⟨⟨position', part', found', mem⟩, under⟩
    obtain rfl := Segment.index.inj
      (Location.segment_eq_of_prefix (prefix_of_mem_mismatches mem) under)
    obtain rfl := Option.some.inj (found.symm.trans found')
    exact mem
  · exact fun mem => ⟨⟨position, part, found, mem⟩, prefix_of_mem_mismatches mem⟩

theorem mismatches_tuple (positions : List Schema) (items : List Value) (location : Location) :
    Report.mismatches ((Schema.tuple positions).validate (.list items) location) =
      (positions.zipIdx.flatMap fun part => Report.mismatches
        (part.1.positionOutcome (location.index part.2) items[part.2]?)) ++
        (surplusItems positions.length items location).flatMap Report.mismatches := by
  rw [validate, Report.mismatches_map, Report.mismatches_gather, List.flatMap_append,
    validatePositions_eq_mapIdx, List.mapIdx_eq_zipIdx_map, List.flatMap_map]
  simp only [Nat.zero_add]

theorem mismatches_model {value : Value} {entries : Entries Value}
    (named : value.fields? = some entries) (name : String) (fields : List (String × Slot Schema))
    (location : Location) :
    Report.mismatches ((Schema.model name fields).validate value location) =
      fields.flatMap fun field =>
        Report.mismatches (fieldOutcome entries location field) := by
  simp only [validate, named]
  rw [Report.mismatches_map, Report.mismatches_gather, validateFields_eq_map,
    List.flatMap_map]

end Schema

end Containment
