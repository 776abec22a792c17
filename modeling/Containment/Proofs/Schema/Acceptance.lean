import Containment.Proofs.Schema.Validation

namespace Containment.Schema

/-! When tuples and models accept a value, by what their parts accept. -/

def Accepts (schema : Schema) (value : Value) : Prop :=
  ∃ result, schema.check value = .ok result

theorem accepts_iff_validate {schema : Schema} {value : Value} (location : Location) :
    schema.Accepts value ↔ ∃ result, schema.validate value location = .ok result :=
  exists_congr fun _ => validate_eq_ok_iff.symm

theorem surplusItems_eq_nil_iff {limit : Nat} {items : List Value} (location : Location) :
    surplusItems limit items location = [] ↔ items.length ≤ limit := by
  rw [surplusItems, List.map_eq_nil_iff, List.drop_eq_nil_iff, List.length_zipIdx]

theorem surplusItems_ok_iff {limit : Nat} {items : List Value} {location : Location} :
    (∀ outcome ∈ surplusItems limit items location, ∃ value, outcome = .ok value) ↔
      items.length ≤ limit := by
  have errors : ∀ outcome ∈ surplusItems limit items location, ¬ ∃ value, outcome = .ok value := by
    intro outcome mem
    obtain ⟨pair, -, rfl⟩ := List.mem_map.mp mem
    rintro ⟨value, same⟩
    cases same
  rw [← surplusItems_eq_nil_iff location, List.eq_nil_iff_forall_not_mem]
  exact forall_congr' fun outcome =>
    ⟨fun ok mem => errors outcome mem (ok mem), fun none mem => absurd mem none⟩

theorem positionOutcome_ok_iff {schema : Schema} {location : Location} {item? : Option Value} :
    (∃ result, schema.positionOutcome location item? = .ok result) ↔
      ∃ item, item? = some item ∧ schema.Accepts item := by
  cases item? with
  | none => simp [positionOutcome]
  | some item => simp [positionOutcome, accepts_iff_validate location]

theorem tuple_accepts_list_iff {positions : List Schema} {items : List Value} :
    (Schema.tuple positions).Accepts (.list items) ↔
      (∀ (position : Nat) (within : position < positions.length),
        ∃ item, items[position]? = some item ∧ Accepts positions[position] item) ∧
      items.length ≤ positions.length := by
  rw [Accepts, check, validate, map_ok_iff, Report.gather_ok_iff, List.forall_mem_append,
    surplusItems_ok_iff, validatePositions_eq_mapIdx]
  apply and_congr_left
  intro _
  constructor
  · intro ok position within
    exact positionOutcome_ok_iff.mp (ok _ (List.mem_mapIdx.mpr ⟨position, within, rfl⟩))
  · intro ok outcome mem
    obtain ⟨position, within, rfl⟩ := List.mem_mapIdx.mp mem
    exact positionOutcome_ok_iff.mpr (ok position within)

theorem tuple_accepts_iff {positions : List Schema} {value : Value} :
    (Schema.tuple positions).Accepts value ↔
      ∃ items : List Value, value = .list items ∧ items.length = positions.length ∧
        ∀ (position : Nat) (schema : Schema) (item : Value),
          positions[position]? = some schema → items[position]? = some item →
            schema.Accepts item := by
  constructor
  · intro accepts
    obtain ⟨items, rfl⟩ : ∃ items, value = .list items := by
      obtain ⟨result, accepted⟩ := accepts
      cases value with
      | list items => exact ⟨items, rfl⟩
      | _ => cases accepted
    obtain ⟨each, short⟩ := tuple_accepts_list_iff.mp accepts
    refine ⟨items, rfl, Nat.le_antisymm short ?_, ?_⟩
    · apply Nat.le_of_not_lt
      intro shorter
      obtain ⟨item, found, -⟩ := each items.length shorter
      rw [List.getElem?_eq_none (Nat.le_refl _)] at found
      cases found
    · intro position schema item declared given
      obtain ⟨within, rfl⟩ := List.getElem?_eq_some_iff.mp declared
      obtain ⟨item', found, accepts⟩ := each position within
      rw [given] at found
      exact Option.some.inj found ▸ accepts
  · rintro ⟨items, rfl, length, each⟩
    refine tuple_accepts_list_iff.mpr ⟨fun position within => ?_, Nat.le_of_eq length⟩
    have given := List.getElem?_eq_getElem (length ▸ within : position < items.length)
    exact ⟨_, given, each position _ _ (List.getElem?_eq_getElem within) given⟩

/-- A field without an alias: its value is accepted, or it is absent and has a default. -/
theorem fieldOutcome_ok_iff {entries : Entries Value} {location : Location}
    {field : String × Slot Schema} (unaliased : field.2.alias? = none) :
    (∃ result, fieldOutcome entries location field = .ok result) ↔
      (∀ part, Entries.lookup? field.1 entries = some part → field.2.schema.Accepts part) ∧
      (Entries.lookup? field.1 entries = none → field.2.isRequired = false) := by
  rw [fieldOutcome_of_unaliased unaliased, Slot.isRequired]
  cases Entries.lookup? field.1 entries with
  | none => cases field.2.default? <;> simp
  | some part => simp [map_ok_iff, accepts_iff_validate (location.field field.1)]

theorem model_accepts_iff {name : String} {fields : List (String × Slot Schema)} {value : Value}
    (unaliased : ∀ field ∈ fields, field.2.alias? = none) :
    (Schema.model name fields).Accepts value ↔
      ∃ entries, value.fields? = some entries ∧ ∀ field ∈ fields,
        (∀ part, Entries.lookup? field.1 entries = some part → field.2.schema.Accepts part) ∧
        (Entries.lookup? field.1 entries = none → field.2.isRequired = false) := by
  rw [Accepts, check, validate]
  cases value.fields? with
  | none => simp
  | some entries =>
      simp only [Option.some.injEq, exists_eq_left']
      rw [map_ok_iff, Report.gather_ok_iff, validateFields_eq_map, List.forall_mem_map]
      exact forall_congr' fun field => forall_congr' fun mem =>
        fieldOutcome_ok_iff (unaliased field mem)

end Containment.Schema
