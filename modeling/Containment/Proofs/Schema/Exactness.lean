import Containment.Collection
import Containment.Proofs.Schema.Coercion
import Containment.Proofs.Schema.Occurrence
import Containment.Proofs.Schema.Validation

namespace Containment

/-! Values that belong to a schema as they stand. Lists, maps and objects are read part by part,
so that a part may still be read as another value; every other value is kept. -/

namespace Schema

variable {value : Value} {location : Location}

/-- Where the members keep what belongs to them, the first that the value belongs to decides. -/
theorem validateExact?_of_kept {members : List Schema}
    (kept : ∀ schema ∈ members, schema.isExact value = true →
      schema.validate value location = .ok value)
    (some : ∃ schema ∈ members, schema.isExact value = true) :
    validateExact? members value location = .some value := by
  induction members with
  | nil =>
      obtain ⟨schema, mem, -⟩ := some
      cases mem
  | cons schema rest ih =>
      obtain ⟨head, tail⟩ := List.forall_mem_cons.mp kept
      rw [validateExact?]
      split
      · rename_i exact
        rw [head exact]
      · rename_i foreign
        apply ih tail
        obtain ⟨other, mem, exact⟩ := some
        rcases List.mem_cons.mp mem with rfl | mem
        · exact absurd exact foreign
        · exact ⟨other, mem, exact⟩

theorem isExact_union_iff {members : List Schema} :
    (Schema.union members).isExact value = true ↔
      ∃ schema ∈ members, schema.isExact value = true := by
  rw [isExact, anyExact_eq_any, List.any_eq_true]

theorem validate_of_isExact {schema : Schema} (plain : schema.isPlain = true)
    (noItems : value.asList? = none) (noFields : value.fields? = none)
    (exact : schema.isExact value = true) : schema.validate value location = .ok value := by
  induction schema generalizing location with
  | any => rw [validate]
  | scalar type => rw [validate, Scalar.coerce_of_isExact exact, judge]
  | enumeration type =>
      have contained : type.contains value = true := exact
      rw [validate, EnumType.coerce, if_pos contained, judge]
  | anyMember =>
      cases value with
      | member => rfl
      | _ => cases exact
  | instanceOf typeName => rw [validate, if_pos (eq_of_beq exact)]
  | literal alternatives =>
      have accepted : alternatives.any (·.accepts value) = true := exact
      rw [validate, if_pos accepted]
  | list | tuple =>
      cases value with
      | list => cases noItems
      | _ => cases exact
  | dict | model =>
      cases value with
      | map | object => cases noFields
      | _ => cases exact
  | optional inner ih =>
      rw [validate]
      split
      · cases value with
        | null => rfl
        | _ => contradiction
      · rename_i given
        rw [isExact, Bool.or_eq_true] at exact
        exact ih plain (exact.resolve_left given)
  | union members ih =>
      rw [isPlain, arePlain_iff] at plain
      have kept : ∀ schema ∈ members, schema.isExact value = true →
          schema.validate value location = .ok value :=
        fun schema mem => ih schema mem (plain schema mem)
      rw [validate, validateExact?_of_kept kept (isExact_union_iff.mp exact)]
  | annotated => cases plain

theorem validate_list_of_kept {item : Schema} {items : List Value}
    (kept : ∀ part ∈ items, ∀ location, item.validate part location = .ok part) :
    (Schema.list item).validate (.list items) location = .ok (.list items) := by
  have outcomes : items.mapIdx (fun position part =>
      item.validate part (location.index position)) = items.map .ok := by
    apply List.ext_getElem
    · rw [List.length_mapIdx, List.length_map]
    · intro position within _
      rw [List.getElem_mapIdx, List.getElem_map]
      exact kept _ (List.getElem_mem _) _
  rw [validate, Report.gather_eq_ok_iff.mpr outcomes]
  rfl

theorem validate_anyLiteral_of_isExact (exact : anyLiteral.isExact value = true) :
    anyLiteral.validate value location = .ok value := by
  have leaf : value.asList? = none ∧ value.fields? = none := by
    cases value with
    | list | map | object => cases exact
    | _ => exact ⟨rfl, rfl⟩
  exact validate_of_isExact rfl leaf.1 leaf.2 exact

theorem validate_anyLiteral_of_not_isExact (foreign : anyLiteral.isExact value = false) :
    ∃ report, anyLiteral.validate value location = .error report := by
  cases value with
  | bool | int | float | bytes | str | member => cases foreign
  | _ => exact ⟨_, rfl⟩

/-- A literal is kept, and every other value is refused. -/
theorem validate_anyLiteral_eq_ok_iff {result : Value} :
    anyLiteral.validate value location = .ok result ↔
      result = value ∧ anyLiteral.isExact value = true := by
  cases exact : anyLiteral.isExact value with
  | true =>
      rw [validate_anyLiteral_of_isExact exact]
      simp [eq_comm]
  | false =>
      obtain ⟨report, refused⟩ := validate_anyLiteral_of_not_isExact exact
      rw [refused]
      simp

theorem validate_list_anyLiteral_eq_ok_iff {items : List Value} {result : Value} :
    (Schema.list anyLiteral).validate (.list items) location = .ok result ↔
      result = .list items ∧ ∀ item ∈ items, anyLiteral.isExact item = true := by
  constructor
  · intro accepted
    have exact : ∀ item ∈ items, anyLiteral.isExact item = true := by
      intro item mem
      obtain ⟨position, within, rfl⟩ := List.mem_iff_getElem.mp mem
      rw [validate] at accepted
      obtain ⟨results, gathered, -⟩ := map_eq_ok_iff.mp accepted
      have among := List.mem_mapIdx (f := fun position part =>
        anyLiteral.validate part (location.index position)).mpr ⟨position, within, rfl⟩
      obtain ⟨read, kept⟩ := Report.gather_ok_iff.mp ⟨results, gathered⟩ _ among
      exact (validate_anyLiteral_eq_ok_iff.mp kept).2
    rw [validate_list_of_kept fun item mem _ => validate_anyLiteral_of_isExact (exact item mem)]
      at accepted
    exact ⟨(Except.ok.inj accepted).symm, exact⟩
  · rintro ⟨rfl, exact⟩
    exact validate_list_of_kept fun item mem _ => validate_anyLiteral_of_isExact (exact item mem)

end Schema

namespace Collection

open Schema

variable {collection : Collection}

theorem dataType_toGenerator (default : collection.itemType = anyLiteral) :
    collection.toGenerator.dataType = .list anyLiteral :=
  congrArg Schema.list default

/-- The check of a collection of literals runs on the value as it is given. -/
theorem validate_toSchema (default : collection.itemType = anyLiteral) (origin : Origin)
    (value : Value) (location : Location) :
    (collection.toGenerator.toSchema origin).validate value location =
      (collection.toGenerator.dataType.validate value location).bind fun _ =>
        runChecks [collection.toGenerator.toCheck origin] value location := by
  rw [Generator.toSchema, validate, dataType_toGenerator default]
  cases outcome : (Schema.list anyLiteral).validate value location with
  | error report => rfl
  | ok result =>
      cases value with
      | list items =>
          obtain ⟨rfl, -⟩ := validate_list_anyLiteral_eq_ok_iff.mp outcome
          rfl
      | _ => cases outcome

end Collection

namespace Schema

/-- Without checks, a value that belongs to a schema as it stands is kept as it is, unless it has
parts. So a choice keeps it wherever the member stands that it belongs to, and the check of a
collection of literals is given the items as they are. -/
theorem exact_values_kept :
    (∀ (schema : Schema) (value : Value) (location : Location), schema.isPlain = true →
      value.asList? = none → value.fields? = none → schema.isExact value = true →
      schema.validate value location = .ok value) ∧
    (∀ (members : List Schema) (value : Value) (location : Location),
      (Schema.union members).isPlain = true →
      value.asList? = none → value.fields? = none →
      (∃ schema ∈ members, schema.isExact value = true) →
      (Schema.union members).validate value location = .ok value) ∧
    ∀ (collection : Collection), collection.itemType = anyLiteral →
      (∀ (items : List Value) (result : Value) (location : Location),
        collection.toGenerator.dataType.validate (.list items) location = .ok result ↔
          result = .list items ∧ ∀ item ∈ items, anyLiteral.isExact item = true) ∧
      ∀ (origin : Origin) (value : Value) (location : Location),
        (collection.toGenerator.toSchema origin).validate value location =
          (collection.toGenerator.dataType.validate value location).bind fun _ =>
            runChecks [collection.toGenerator.toCheck origin] value location := by
  refine ⟨fun _ _ _ => validate_of_isExact, ?_, ?_⟩
  · intro members value location plain noItems noFields some
    exact validate_of_isExact plain noItems noFields (isExact_union_iff.mpr some)
  · intro collection default
    refine ⟨fun items result location => ?_, Collection.validate_toSchema default⟩
    rw [Collection.dataType_toGenerator default]
    exact validate_list_anyLiteral_eq_ok_iff

/-- The number belongs to a member of a choice inside the last member, and earlier members would
read it as a truth value; true stays apart from one among the items of a collection. -/
theorem exact_values_kept_of_nested_number :
    let nested : Schema := .optional (.union [.scalar .float, .scalar .int])
    let members : List Schema := [.scalar .bool, .dict (.scalar .str), nested]
    let collection := Collection.ofItems [.bool true, .float (.ofNat 1)]
    let items : List Value := [.float (.ofNat 1), .bool true]
    nested.isPlain = true ∧ (Schema.union members).isPlain = true ∧
      (Value.int 1).asList? = none ∧ (Value.int 1).fields? = none ∧
      nested.isExact (.int 1) = true ∧ nested ∈ members ∧ collection.itemType = anyLiteral ∧
      (Schema.scalar .bool).check (.int 1) = .ok (.bool true) ∧
      nested.validate (.int 1) [.field "at"] = .ok (.int 1) ∧
      (Schema.union members).validate (.int 1) [.field "at"] = .ok (.int 1) ∧
      collection.toGenerator.dataType.validate (.list items) [.field "at"] =
        .ok (.list items) := by
  intro nested members collection items
  obtain ⟨kept, chosen, unconverted⟩ := exact_values_kept
  have plain : nested.isPlain = true := rfl
  have plains : (Schema.union members).isPlain = true := rfl
  have exact : nested.isExact (.int 1) = true := rfl
  have mem : nested ∈ members := .tail _ (.tail _ (.head _))
  obtain ⟨accepted, -⟩ := unconverted collection rfl
  refine ⟨plain, plains, rfl, rfl, exact, mem, rfl, rfl, kept _ _ _ plain rfl rfl exact,
    chosen _ _ _ plains rfl rfl ⟨nested, mem, exact⟩, (accepted _ _ _).mpr ⟨rfl, ?_⟩⟩
  simp only [items, List.forall_mem_cons, List.not_mem_nil, false_implies, implies_true, and_true]
  exact ⟨rfl, rfl⟩

end Schema

end Containment
