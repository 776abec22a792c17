import Containment.Proofs.Report.Grouping
import Containment.Proofs.Schema.Mismatches
import Containment.Proofs.Schema.Occurrence
import Containment.Proofs.Value.Part
import Mathlib.Data.List.Nodup

namespace Containment

/-! No two mismatches of a report share a location, so that the report by locations has a group
of one for each. -/

/-- Every mismatch of the outcome is located under the place, and no other at its location. -/
structure Separate {α : Type} (place : Location) (outcome : Except Report α) : Prop where
  under : ∀ mismatch ∈ Report.mismatches outcome, place <+: mismatch.location
  distinct : ((Report.mismatches outcome).map Mismatch.location).Nodup

namespace Separate

variable {α β : Type} {place : Location}

theorem ok (a : α) : Separate place (.ok a) where
  under _ mem := nomatch mem
  distinct := List.nodup_nil

theorem single {mismatch : Mismatch} (located : mismatch.location = place) :
    Separate place (.error (.single mismatch) : Except Report α) where
  under other mem := by
    obtain rfl := List.mem_singleton.mp mem
    exact located ▸ List.prefix_refl _
  distinct := List.nodup_singleton _

theorem report (fault : Fault) (value : Value) :
    Separate place (.error (fault.report value place) : Except Report α) :=
  single rfl

theorem map {outcome : Except Report α} (make : α → β) (separate : Separate place outcome) :
    Separate place (outcome.map make) where
  under := by
    rw [Report.mismatches_map]
    exact separate.under
  distinct := by
    rw [Report.mismatches_map]
    exact separate.distinct

/-- Outcomes for different parts of a place have no location in common. -/
theorem gather {κ : Type} {parts : List κ} {segment : κ → Segment}
    {outcome : κ → Except Report α} (apart : (parts.map segment).Nodup)
    (each : ∀ part ∈ parts, Separate (place.push (segment part)) (outcome part)) :
    Separate place (Report.gather (parts.map outcome)) where
  under mismatch mem := by
    rw [Report.mismatches_gather, List.flatMap_map] at mem
    obtain ⟨part, among, mem⟩ := List.mem_flatMap.mp mem
    exact (List.prefix_append place _).trans ((each part among).under mismatch mem)
  distinct := by
    rw [Report.mismatches_gather, List.flatMap_map, List.map_flatMap, List.nodup_flatMap]
    refine ⟨fun part mem => (each part mem).distinct, ?_⟩
    refine (List.pairwise_map.mp apart).imp_of_mem fun {part other} mem mem' differ => ?_
    intro location here there
    obtain ⟨mismatch, among, rfl⟩ := List.mem_map.mp here
    obtain ⟨mismatch', among', same⟩ := List.mem_map.mp there
    have under' := (each other mem').under mismatch' among'
    rw [same] at under'
    exact differ (Location.segment_eq_of_prefix ((each part mem).under mismatch among) under')

end Separate

namespace Schema

/-- Every part is reported at a place of its own: no alternatives, which are all reported at one
place, and no alias, which may be the name of another field. -/
def KeepsPlaces : Schema → Prop
  | .union _ => False
  | .model _ fields =>
      (Entries.names fields).Nodup ∧ ∀ field ∈ fields, field.2.alias? = none
  | _ => True

variable {value : Value} {place : Location}

theorem separate_judge (outcome : Except Fault Value) :
    Separate place (judge outcome value place) := by
  cases outcome with
  | ok result => exact .ok result
  | error fault => exact .report fault value

theorem separate_runChecks (checks : List Check) :
    Separate place (runChecks checks value place) := by
  induction checks generalizing value with
  | nil => exact .ok value
  | cons check rest ih =>
      rw [runChecks]
      cases check.run value with
      | ok next => exact ih
      | error reason => exact .report _ _

theorem separate_positionOutcome {schema : Schema} {item? : Option Value}
    (ih : ∀ item, item? = some item → Separate place (schema.validate item place)) :
    Separate place (schema.positionOutcome place item?) := by
  cases item? with
  | none => exact .single rfl
  | some item => exact ih item rfl

theorem separate_fieldOutcome {entries : Entries Value} {field : String × Slot Schema}
    (unaliased : field.2.alias? = none)
    (ih : ∀ part, Entries.lookup? field.1 entries = some part →
      Separate (place.field field.1) (field.2.schema.validate part (place.field field.1))) :
    Separate (place.field field.1) (fieldOutcome entries place field) := by
  rw [fieldOutcome_of_unaliased unaliased]
  cases found : Entries.lookup? field.1 entries with
  | some part => exact (ih part found).map _
  | none =>
      cases field.2.default? with
      | some default => exact .ok _
      | none => exact .single rfl

theorem nodup_indices {α : Type} (items : List α) :
    (items.zipIdx.map fun part => Segment.index part.2).Nodup := by
  have segments : items.zipIdx.map (fun part => Segment.index part.2) =
      (List.range items.length).map .index := by
    rw [List.range_eq_range', ← List.zipIdx_map_snd, List.map_map]
    rfl
  rw [segments]
  exact List.nodup_range.map fun _ _ => Segment.index.inj

theorem nodup_fields {α : Type} {entries : Entries α} (distinct : entries.names.Nodup) :
    (entries.map fun entry => Segment.field entry.1).Nodup := by
  have segments : entries.map (fun entry => Segment.field entry.1) =
      entries.names.map .field := by
    rw [Entries.names, List.map_map]
    rfl
  rw [segments]
  exact distinct.map fun _ _ => Segment.field.inj

/-- The positions of a tuple and the items beyond them, each with its segment. -/
def tupleParts (positions : List Schema) (items : List Value) (place : Location) :
    List (Segment × Except Report Value) :=
  (positions.zipIdx.map fun (schema, position) =>
      (.index position, schema.positionOutcome (place.index position) items[position]?)) ++
    (items.zipIdx.drop positions.length).map fun (item, position) =>
      (.index position, .error
        ((Fault.surplus positions.length items.length).report item (place.index position)))

theorem map_snd_tupleParts (positions : List Schema) (items : List Value) (place : Location) :
    (tupleParts positions items place).map Prod.snd =
      validatePositions positions items place 0 ++ surplusItems positions.length items place := by
  simp only [tupleParts, validatePositions_eq_mapIdx, List.mapIdx_eq_zipIdx_map, surplusItems,
    List.map_append, List.map_map, Nat.zero_add]
  rfl

theorem nodup_tupleParts (positions : List Schema) (items : List Value) (place : Location) :
    ((tupleParts positions items place).map Prod.fst).Nodup := by
  have segments : (tupleParts positions items place).map Prod.fst =
      (List.range positions.length ++
        (List.range items.length).drop positions.length).map .index := by
    simp only [tupleParts, List.map_append, List.map_map, List.range_eq_range',
      ← List.zipIdx_map_snd, List.map_drop]
    rfl
  rw [segments]
  refine List.Nodup.map (fun _ _ => Segment.index.inj) (List.nodup_append.mpr ⟨?_, ?_, ?_⟩)
  · exact List.nodup_range
  · exact List.nodup_range.sublist (List.drop_sublist _ _)
  · intro position within other beyond
    obtain ⟨offset, _, rfl⟩ := List.mem_drop_iff_getElem.mp beyond
    rw [List.getElem_range]
    have := List.mem_range.mp within
    omega

theorem validate_separate {schema : Schema} (keeps : schema.Everywhere KeepsPlaces)
    (keyed : value.wellKeyed = true) : Separate place (schema.validate value place) := by
  induction schema generalizing value place with
  | any => exact .ok value
  | scalar type =>
      rw [validate]
      exact separate_judge _
  | enumeration type =>
      rw [validate]
      exact separate_judge _
  | anyMember =>
      cases value with
      | member => exact .ok _
      | _ => exact .report _ _
  | instanceOf typeName =>
      rw [validate]
      split
      · exact .ok value
      · exact .report _ _
  | literal alternatives =>
      rw [validate]
      split
      · exact .ok value
      · exact .report _ _
  | list item ih =>
      cases value with
      | list items =>
          rw [Value.wellKeyed, Value.wellKeyedItems_iff] at keyed
          rw [validate, List.mapIdx_eq_zipIdx_map]
          refine .map _ (.gather (nodup_indices items) fun part mem => ?_)
          exact ih (keeps.child (.head _)) (keyed _ (List.fst_mem_of_mem_zipIdx mem))
      | _ => exact .report _ _
  | tuple positions ih =>
      cases value with
      | list items =>
          rw [Value.wellKeyed, Value.wellKeyedItems_iff] at keyed
          rw [validate, ← map_snd_tupleParts]
          refine .map _ (.gather (nodup_tupleParts positions items place) fun part mem => ?_)
          rcases List.mem_append.mp mem with mem | mem
          · obtain ⟨⟨schema, position⟩, among, rfl⟩ := List.mem_map.mp mem
            have mem := List.fst_mem_of_mem_zipIdx among
            apply separate_positionOutcome
            intro item found
            exact ih _ mem (keeps.child mem) (keyed item (List.mem_of_getElem? found))
          · obtain ⟨⟨item, position⟩, -, rfl⟩ := List.mem_map.mp mem
            exact .report _ _
      | _ => exact .report _ _
  | dict item ih =>
      cases value with
      | map entries =>
          obtain ⟨distinct, keyed⟩ := Value.wellKeyed_fields keyed rfl
          rw [validate]
          refine .map _ (.gather (nodup_fields distinct) fun entry mem => ?_)
          exact (ih (keeps.child (.head _)) (keyed entry mem)).map _
      | _ => exact .report _ _
  | optional inner ih =>
      rw [validate]
      split
      · exact .ok _
      · exact ih (keeps.child (.head _)) keyed
  | union members _ => exact keeps.here.elim
  | annotated inner checks ih =>
      have separate : Separate place (inner.validate value place) :=
        ih (keeps.child (.head _)) keyed
      rw [validate]
      cases outcome : inner.validate value place with
      | ok result => exact separate_runChecks checks
      | error report => rwa [outcome] at separate
  | model name fields ih =>
      obtain ⟨distinct, unaliased⟩ := keeps.here
      rw [validate]
      cases named : value.fields? with
      | none => exact .report _ _
      | some entries =>
          obtain ⟨-, keyed⟩ := Value.wellKeyed_fields keyed named
          simp only [validateFields_eq_map]
          refine .map _ (.gather (nodup_fields distinct) fun field mem => ?_)
          apply separate_fieldOutcome (unaliased field mem)
          intro part found
          exact ih field mem (keeps.child (List.mem_map_of_mem mem))
            (keyed _ (Entries.mem_of_lookup? found))

/-- Each mismatch has a location of its own, and a group of its own in the report by locations.
The names of a map, an object or a model are distinct, as `Entries.insert` keeps them. -/
theorem one_mismatch_per_location (schema : Schema) (keeps : schema.Everywhere KeepsPlaces)
    (value : Value) (keyed : value.wellKeyed = true) (start : Location) (report : Report)
    (failed : schema.validate value start = .error report) :
    (report.toList.map Mismatch.location).Nodup ∧
      report.groups = report.toList.map (fun mismatch => (mismatch.location, [mismatch])) ∧
      report.locations.length = report.size := by
  have separate : Separate start (schema.validate value start) := validate_separate keeps keyed
  rw [failed] at separate
  have groups := Report.groups_of_distinct separate.distinct
  refine ⟨separate.distinct, groups, ?_⟩
  rw [Report.locations, groups, List.length_map, List.length_map, Report.size]

/-- Fields, positions, an item too many and a check that rejects. -/
theorem one_mismatch_per_location_of_order :
    let short : Check := ⟨"short", .declared 0, fun
      | .list (_ :: _ :: _) => .error "more than one line"
      | value => .ok value⟩
    let schema : Schema := .model "Order" [("id", .required (.scalar .int)),
      ("buyer", .required (.tuple [.scalar .str, .scalar .int])),
      ("lines", .required (.annotated (.list .any) [short]))]
    let value : Value := .map [("lines", .list [.str "tea", .str "milk"]),
      ("buyer", .list [.int 1, .int 7, .null])]
    schema.Everywhere KeepsPlaces ∧ value.wellKeyed = true ∧
      ∃ report, schema.validate value [.field "input"] = .error report ∧
        report.locations = [[.field "input", .field "id"],
          [.field "input", .field "buyer", .index 0], [.field "input", .field "buyer", .index 2],
          [.field "input", .field "lines"]] ∧
        (report.toList.map Mismatch.location).Nodup ∧
        report.groups = report.toList.map (fun mismatch => (mismatch.location, [mismatch])) ∧
        report.locations.length = report.size := by
  intro short schema value
  have leaf {part : Schema} (none : part.children = []) (keeps : KeepsPlaces part) :
      part.Everywhere KeepsPlaces :=
    everywhere_iff.mpr ⟨keeps, by rw [none]; exact fun _ mem => nomatch mem⟩
  have scalar (type : Scalar) : (Schema.scalar type).Everywhere KeepsPlaces :=
    leaf rfl trivial
  have any : Schema.any.Everywhere KeepsPlaces := leaf rfl trivial
  have buyer : (Schema.tuple [.scalar .str, .scalar .int]).Everywhere KeepsPlaces :=
    everywhere_iff.mpr ⟨trivial, by simp [children, scalar]⟩
  have list : (Schema.list .any).Everywhere KeepsPlaces :=
    everywhere_iff.mpr ⟨trivial, by simpa [children] using any⟩
  have lines : (Schema.annotated (.list .any) [short]).Everywhere KeepsPlaces :=
    everywhere_iff.mpr ⟨trivial, by simpa [children] using list⟩
  have keeps : schema.Everywhere KeepsPlaces :=
    everywhere_iff.mpr ⟨by simp [schema, KeepsPlaces, Slot.required],
      by simp [schema, children, Slot.required, scalar, buyer, lines]⟩
  have keyed : value.wellKeyed = true := rfl
  exact ⟨keeps, keyed, _, rfl, rfl, one_mismatch_per_location schema keeps value keyed _ _ rfl⟩

end Schema

end Containment
