import Containment.Proofs.Containment.Matches

namespace Containment

open Fields (keyText)

/-! Values that differ only in what a shape does not declare. -/

namespace Shape

/-- Maps and objects agree on a mapping if they agree on the declared entries, and lists agree
on a sequence if they agree position by position and are the same beyond it. -/
inductive Agree : Shape → Value → Value → Prop where
  | same (shape : Shape) (value : Value) : Agree shape value value
  | mapping {shape : Shape} {entries : List (Value × Shape)} {value other : Value}
      {fields others : Entries Value} (found : shape.entries? = some entries)
      (named : value.fields? = some fields) (named' : other.fields? = some others)
      (lacked : ∀ entry ∈ entries, ∀ name, entry.1 = .str name →
        (Entries.lookup? name fields = none ↔ Entries.lookup? name others = none))
      (given : ∀ entry ∈ entries, ∀ name, entry.1 = .str name → ∀ part part',
        Entries.lookup? name fields = some part → Entries.lookup? name others = some part' →
          Agree entry.2 part part') :
      Agree shape value other
  | sequence {shape : Shape} {items : List Shape} {parts others : List Value}
      (found : shape.items? = some items) (length : parts.length = others.length)
      (within : ∀ (position : Nat) (item : Shape) (part part' : Value),
        items[position]? = some item → parts[position]? = some part →
          others[position]? = some part' → Agree item part part')
      (beyond : parts.drop items.length = others.drop items.length) :
      Agree shape (.list parts) (.list others)

/-- What is declared is shown, so that values agree on all look-alikes of a shape or on none. -/
theorem Agree.of_asShown {shape held : Shape} {value other : Value}
    (agree : shape.Agree value other) (same : shape.asShown = held.asShown) :
    held.Agree value other := by
  induction agree generalizing held with
  | same _ value => exact .same held value
  | mapping found named named' lacked _ ih =>
      obtain ⟨entries, found', alike⟩ := entries?_of_asShown same found
      refine .mapping found' named named' ?_ ?_
      · intro entry mem name key
        obtain ⟨original, among, key', -⟩ := exists_entry_of_asShown alike mem key
        exact lacked original among name key'
      · intro entry mem name key part part' here there
        obtain ⟨original, among, key', parts⟩ := exists_entry_of_asShown alike mem key
        exact ih original among name key' part part' here there parts
  | sequence found length _ beyond ih =>
      obtain ⟨items, found', alike⟩ := items?_of_asShown same found
      have lengths := congrArg List.length alike
      rw [List.length_map, List.length_map] at lengths
      refine .sequence found' length ?_ (lengths ▸ beyond)
      intro position item part part' declared here there
      obtain ⟨original, stands, shown⟩ := getElem?_of_map_eq alike declared
      exact ih position original part part' stands here there shown

theorem fieldOutcome_eq_of_agree {field : String × Slot Schema} {fields others : Entries Value}
    {location : Location} (unaliased : field.2.alias? = none)
    (lacked : Entries.lookup? field.1 fields = none ↔ Entries.lookup? field.1 others = none)
    (given : ∀ part part', Entries.lookup? field.1 fields = some part →
      Entries.lookup? field.1 others = some part' → ∀ location,
        field.2.schema.validate part location = field.2.schema.validate part' location) :
    Schema.fieldOutcome fields location field = Schema.fieldOutcome others location field := by
  rw [Schema.fieldOutcome_of_unaliased unaliased, Schema.fieldOutcome_of_unaliased unaliased]
  cases here : Entries.lookup? field.1 fields with
  | none => rw [lacked.mp here]
  | some part =>
      cases there : Entries.lookup? field.1 others with
      | none => rw [lacked.mpr there] at here; cases here
      | some part' => simp only [given part part' here there]

theorem surplusItems_eq_of_drop {limit : Nat} {parts others : List Value}
    (length : parts.length = others.length) (beyond : parts.drop limit = others.drop limit)
    (location : Location) :
    Schema.surplusItems limit parts location = Schema.surplusItems limit others location := by
  have numbered : parts.zipIdx.drop limit = others.zipIdx.drop limit := by
    apply List.ext_getElem?
    intro position
    have same := congrArg (·[position]?) beyond
    simp only [List.getElem?_drop] at same
    rw [List.getElem?_drop, List.getElem?_drop, List.getElem?_zipIdx, List.getElem?_zipIdx, same]
  rw [Schema.surplusItems, Schema.surplusItems, numbered, length]

theorem positionOutcome_eq_of_agree {schema : Schema} {parts others : List Value}
    (length : parts.length = others.length) {position : Nat} {location : Location}
    (within : ∀ part part', parts[position]? = some part → others[position]? = some part' →
      ∀ location, schema.validate part location = schema.validate part' location) :
    schema.positionOutcome location parts[position]? =
      schema.positionOutcome location others[position]? := by
  by_cases inside : position < parts.length
  · have here := List.getElem?_eq_getElem inside
    have there := List.getElem?_eq_getElem (length ▸ inside : position < others.length)
    rw [here, there]
    exact within _ _ here there location
  · have outside : ¬ position < others.length := length ▸ inside
    rw [List.getElem?_eq_none (Nat.le_of_not_lt inside),
      List.getElem?_eq_none (Nat.le_of_not_lt outside)]

theorem rule_validate_agree {shape : Shape} {value other : Value} (agree : shape.Agree value other)
    {place : Location} (clean : shape.firstBad? place = none) (location : Location) :
    shape.rule.schema.validate value location = shape.rule.schema.validate other location := by
  induction agree generalizing place location with
  | same => rfl
  | mapping found named named' lacked _ ih =>
      obtain ⟨parts, texts⟩ := clean_entries found clean
      rw [rule_of_entries? found]
      simp only [Slot.required, Schema.validate, named, named', Schema.validateFields_eq_map]
      rw [List.map_congr_left fun field mem => ?_]
      obtain ⟨entry, among, rfl⟩ := List.mem_map.mp mem
      obtain ⟨name, key⟩ := texts entry among
      obtain ⟨place, clean⟩ := parts entry among
      apply fieldOutcome_eq_of_agree
      · exact alias?_rule entry.2
      · rw [Prod.map_apply, key]
        exact lacked entry among name key
      · rw [Prod.map_apply, key]
        exact fun part part' here there location =>
          ih entry among name key part part' here there clean location
  | sequence found length _ beyond ih =>
      have parts := clean_items found clean
      rw [rule_of_items? found]
      simp only [Slot.required, Schema.validate, Schema.validatePositions_eq_mapIdx,
        List.length_map]
      rw [surplusItems_eq_of_drop length beyond]
      congr 3
      apply List.mapIdx_eq_mapIdx_iff.mpr
      intro position declared
      rw [List.length_map] at declared
      rw [List.getElem_map]
      obtain ⟨place, clean⟩ := parts _ (List.getElem_mem declared)
      apply positionOutcome_eq_of_agree length
      exact fun part part' here there location =>
        ih position _ part part' (List.getElem?_eq_getElem declared) here there clean location

end Shape

namespace Registry

/-- What is not declared cannot be told from the outcome of a compiled shape. -/
theorem compiled_check_agree (caching : Bool) (capacity : Nat) (operations : List Operation)
    (shape : Shape) (schema : Schema) (value other : Value)
    (compiled : (((standardWith caching capacity).convertToSchema shape).run
      ((standardWith caching capacity).after operations)).1 = .ok schema)
    (agree : shape.Agree value other) : schema.check value = schema.check other := by
  rw [run_convertToSchema] at compiled
  cases made : (((standardWith caching capacity).convert shape).run
      ((standardWith caching capacity).after operations)).1 with
  | error unclaimed => rw [made] at compiled; cases compiled
  | ok rule =>
      rw [made] at compiled
      obtain rfl : rule.schema = schema := Except.ok.inj compiled
      obtain ⟨held, holds, clean, validates⟩ := held_of_convert made
      rw [Schema.check, Schema.check, validates, validates]
      exact Shape.rule_validate_agree (agree.of_asShown holds.asShown_eq.symm) clean Location.root

theorem compiled_check_agree_on_name :
    let shape : Shape := .dict [(.str "name", .value (.str "Ada")), (.str "age", .present)]
    let value : Value := .map [("born", .int 1815), ("name", .str "Ada")]
    let other : Value := .object "Person" [("name", .str "Ada")]
    ∃ schema, (((standardWith true 1).convertToSchema shape).run Memo.empty).1 = .ok schema ∧
      shape.Agree value other ∧ schema.check value = schema.check other := by
  intro shape value other
  have compiled : ∃ schema, (((standardWith true 1).convertToSchema shape).run
      ((standardWith true 1).after [])).1 = .ok schema := ⟨_, rfl⟩
  obtain ⟨schema, compiled⟩ := compiled
  have agree : shape.Agree value other := by
    refine .mapping rfl rfl rfl ?_ ?_
    · intro entry mem name key
      simp only [List.mem_cons, List.not_mem_nil, or_false] at mem
      rcases mem with rfl | rfl <;> cases key <;> simp [Entries.lookup?]
    · intro entry mem name key part part' here there
      simp only [List.mem_cons, List.not_mem_nil, or_false] at mem
      rcases mem with rfl | rfl <;> cases key <;> simp [Entries.lookup?] at here there
      rw [← here, ← there]
      exact .same _ _
  exact ⟨schema, compiled, agree,
    compiled_check_agree true 1 [] shape schema value other compiled agree⟩

end Registry

end Containment
