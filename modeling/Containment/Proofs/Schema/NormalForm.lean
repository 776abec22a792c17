import Containment.Proofs.Schema.Coercion
import Containment.Proofs.Schema.Occurrence
import Containment.Proofs.Schema.Union

namespace Containment

/-! What a schema accepts a value as is in normal form: it is accepted again, and where there is
nothing to choose from, as itself. -/

namespace Report

variable {α β : Type} {steady : Prop}

/-- What was accepted before is accepted again, and under a condition unchanged. -/
def Renewed (steady : Prop) (result : α) (outcome : Except Report α) : Prop :=
  ∃ again, outcome = .ok again ∧ (steady → again = result)

theorem Renewed.same (result : α) : Renewed steady result (.ok result) :=
  ⟨result, rfl, fun _ => rfl⟩

theorem Renewed.imp {under : Prop} {result : α} {outcome : Except Report α}
    (renewed : Renewed steady result outcome) (weaken : under → steady) :
    Renewed under result outcome := by
  obtain ⟨again, made, same⟩ := renewed
  exact ⟨again, made, same ∘ weaken⟩

theorem Renewed.map (make : α → β) {result : α} {outcome : Except Report α}
    (renewed : Renewed steady result outcome) :
    Renewed steady (make result) (outcome.map make) := by
  obtain ⟨again, rfl, same⟩ := renewed
  exact ⟨make again, rfl, fun steady => congrArg make (same steady)⟩

/-- Each outcome of a second reading is compared with the one that stands in its place in the
first. -/
theorem Renewed.gather {results : List α} {first again : List (Except Report α)}
    (gathered : Report.gather first = .ok results) (length : again.length = first.length)
    (each : ∀ (position : Nat) (result : α) (outcome : Except Report α),
      results[position]? = some result → first[position]? = some (.ok result) →
        again[position]? = some outcome → Renewed steady result outcome) :
    Renewed steady results (Report.gather again) := by
  obtain rfl := gather_eq_ok_iff.mp gathered
  induction results generalizing again with
  | nil =>
      rw [List.eq_nil_of_length_eq_zero length]
      exact .same []
  | cons result rest ih =>
      cases again with
      | nil => cases length
      | cons outcome others =>
          obtain ⟨head, rfl, sameHead⟩ := each 0 result outcome rfl rfl rfl
          obtain ⟨later, made, sameRest⟩ := ih (gather_eq_ok_iff.mpr rfl) (Nat.succ.inj length)
            fun position => each (position + 1)
          refine ⟨head :: later, ?_, fun steady => ?_⟩
          · rw [gather_ok_cons, made]
            rfl
          · rw [sameHead steady, sameRest steady]

end Report

namespace Schema

open Report (Renewed)

/-- No checks and no aliases. The fields of a model have names of their own, and each accepts its
default. -/
def IsSettled : Schema → Prop
  | .annotated _ _ => False
  | .model _ fields =>
      (Entries.names fields).Nodup ∧ ∀ field ∈ fields, field.2.alias? = none ∧
        ∀ default, field.2.default? = some default → field.2.schema.Accepts default
  | _ => True

/-- Nothing to choose from, and every default is what its field reads it as. -/
def IsSteady : Schema → Prop
  | .union _ => False
  | .model _ fields => ∀ field ∈ fields, ∀ default, field.2.default? = some default →
      field.2.schema.check default = .ok default
  | _ => True

theorem fieldOutcome_eq_ok {entries : Entries Value} {location : Location}
    {field : String × Slot Schema} {result : String × Value} (unaliased : field.2.alias? = none)
    (made : fieldOutcome entries location field = .ok result) :
    result.1 = field.1 ∧
      ((∃ part place, field.2.schema.validate part place = .ok result.2) ∨
        field.2.default? = some result.2) := by
  rw [fieldOutcome_of_unaliased unaliased] at made
  cases found : Entries.lookup? field.1 entries with
  | some part =>
      rw [found] at made
      obtain ⟨value, accepted, rfl⟩ := map_eq_ok_iff.mp made
      exact ⟨rfl, .inl ⟨part, _, accepted⟩⟩
  | none =>
      cases given : field.2.default? with
      | none =>
          rw [found, given] at made
          cases made
      | some default =>
          rw [found, given] at made
          cases made
          exact ⟨rfl, .inr rfl⟩

theorem validate_list_renewed {item : Schema} {items : List Value} {result : Value}
    {location : Location} {steady : Prop}
    (accepted : (Schema.list item).validate (.list items) location = .ok result)
    (each : ∀ part result location place, item.validate part location = .ok result →
      Renewed steady result (item.validate result place)) (place : Location) :
    Renewed steady result ((Schema.list item).validate result place) := by
  rw [validate] at accepted
  obtain ⟨results, gathered, rfl⟩ := map_eq_ok_iff.mp accepted
  have length : results.length = items.length := by
    rw [← Report.length_of_gather gathered, List.length_mapIdx]
  rw [validate]
  refine .map _ (.gather gathered (by rw [List.length_mapIdx, List.length_mapIdx, length]) ?_)
  intro position part outcome given first made
  rw [List.getElem?_mapIdx] at first
  rw [List.getElem?_mapIdx, given] at made
  obtain ⟨original, -, accepted⟩ := Option.map_eq_some_iff.mp first
  obtain rfl := Option.some.inj made
  exact each _ _ _ _ accepted

theorem validate_tuple_renewed {positions : List Schema} {items : List Value} {result : Value}
    {location : Location} {steady : Prop}
    (accepted : (Schema.tuple positions).validate (.list items) location = .ok result)
    (each : ∀ schema ∈ positions, ∀ part result location place,
      schema.validate part location = .ok result →
        Renewed steady result (schema.validate result place)) (place : Location) :
    Renewed steady result ((Schema.tuple positions).validate result place) := by
  rw [validate, validatePositions_eq_mapIdx] at accepted
  obtain ⟨results, gathered, rfl⟩ := map_eq_ok_iff.mp accepted
  have accepts := Report.gather_ok_iff.mp ⟨results, gathered⟩
  have fits := surplusItems_ok_iff.mp (List.forall_mem_append.mp accepts).2
  rw [(surplusItems_eq_nil_iff location).mpr fits, List.append_nil] at gathered
  have length : results.length = positions.length := by
    rw [← Report.length_of_gather gathered, List.length_mapIdx]
  rw [validate, validatePositions_eq_mapIdx,
    (surplusItems_eq_nil_iff place).mpr (Nat.le_of_eq length), List.append_nil]
  refine .map _ (.gather gathered (by rw [List.length_mapIdx, List.length_mapIdx]) ?_)
  intro position part outcome given first made
  rw [List.getElem?_mapIdx] at first made
  obtain ⟨schema, declared, accepted⟩ := Option.map_eq_some_iff.mp first
  rw [declared, given] at made
  obtain rfl := Option.some.inj made
  cases found : items[position]? with
  | none => rw [found] at accepted; cases accepted
  | some item =>
      rw [found] at accepted
      exact each schema (List.mem_of_getElem? declared) _ _ _ _ accepted

theorem validate_dict_renewed {item : Schema} {entries : List (String × Value)} {result : Value}
    {location : Location} {steady : Prop}
    (accepted : (Schema.dict item).validate (.map entries) location = .ok result)
    (each : ∀ part result location place, item.validate part location = .ok result →
      Renewed steady result (item.validate result place)) (place : Location) :
    Renewed steady result ((Schema.dict item).validate result place) := by
  rw [validate] at accepted
  obtain ⟨results, gathered, rfl⟩ := map_eq_ok_iff.mp accepted
  have length : results.length = entries.length := by
    rw [← Report.length_of_gather gathered, List.length_map]
  rw [validate]
  refine .map _ (.gather gathered (by rw [List.length_map, List.length_map, length]) ?_)
  intro position entry outcome given first made
  rw [List.getElem?_map] at first
  rw [List.getElem?_map, given] at made
  obtain ⟨⟨name, original⟩, -, accepted⟩ := Option.map_eq_some_iff.mp first
  obtain ⟨part, read, rfl⟩ := map_eq_ok_iff.mp accepted
  obtain rfl := Option.some.inj made
  exact (each _ _ _ _ read).map _

theorem names_of_fieldOutcomes {fields : List (String × Slot Schema)} {entries results : Entries Value}
    {location : Location} (unaliased : ∀ field ∈ fields, field.2.alias? = none)
    (made : fields.map (fieldOutcome entries location) = results.map .ok) :
    Entries.names results = Entries.names fields := by
  induction fields generalizing results with
  | nil =>
      cases results with
      | nil => rfl
      | cons result others => cases made
  | cons field rest ih =>
      cases results with
      | nil => cases made
      | cons result others =>
          obtain ⟨head, tail⟩ := List.forall_mem_cons.mp unaliased
          rw [List.map_cons, List.map_cons, List.cons.injEq] at made
          have named := (fieldOutcome_eq_ok head made.1).1
          rw [Entries.names, Entries.names, List.map_cons, List.map_cons, named]
          exact congrArg (field.1 :: ·) (ih tail made.2)

/-- What a field comes to is found under its name, be it read or the default. -/
theorem fieldOutcome_renewed {entries results : Entries Value} {location place : Location}
    {field : String × Slot Schema} {result : String × Value} {steady : Prop}
    (unaliased : field.2.alias? = none)
    (accepted : fieldOutcome entries location field = .ok result)
    (found : Entries.lookup? field.1 results = some result.2)
    (each : ∀ part result location place, field.2.schema.validate part location = .ok result →
      Renewed steady result (field.2.schema.validate result place))
    (kept : ∀ default, field.2.default? = some default →
      Renewed steady default (field.2.schema.validate default (place.field field.1))) :
    Renewed steady result (fieldOutcome results place field) := by
  rw [fieldOutcome_of_lookup? unaliased found]
  obtain ⟨name, part⟩ := result
  obtain ⟨rfl, origin⟩ := fieldOutcome_eq_ok unaliased accepted
  rcases origin with ⟨original, location, read⟩ | default
  · exact (each _ _ _ _ read).map _
  · exact (kept part default).map _

theorem default_renewed {field : String × Slot Schema} {default : Value} {steady : Prop}
    (accepts : field.2.schema.Accepts default)
    (kept : steady → field.2.schema.check default = .ok default) (place : Location) :
    Renewed steady default (field.2.schema.validate default place) := by
  obtain ⟨again, read⟩ := accepts
  refine ⟨again, validate_eq_ok_iff.mpr read, fun steady => ?_⟩
  rw [kept steady] at read
  exact (Except.ok.inj read).symm

theorem validate_model_renewed {name : String} {fields : List (String × Slot Schema)}
    {value result : Value} {location : Location} {steady : Prop}
    (settled : IsSettled (.model name fields)) (kept : steady → IsSteady (.model name fields))
    (accepted : (Schema.model name fields).validate value location = .ok result)
    (each : ∀ field ∈ fields, ∀ part result location place,
      field.2.schema.validate part location = .ok result →
        Renewed steady result (field.2.schema.validate result place)) (place : Location) :
    Renewed steady result ((Schema.model name fields).validate result place) := by
  obtain ⟨distinct, settled⟩ := settled
  rw [validate] at accepted
  cases named : value.fields? with
  | none => rw [named] at accepted; cases accepted
  | some entries =>
      rw [named] at accepted
      obtain ⟨results, gathered, rfl⟩ := map_eq_ok_iff.mp accepted
      rw [validateFields_eq_map] at gathered
      have names := names_of_fieldOutcomes (fun field mem => (settled field mem).1)
        (Report.gather_eq_ok_iff.mp gathered)
      rw [validate, Value.fields?]
      dsimp only
      rw [validateFields_eq_map]
      refine .map _ (.gather gathered (by rw [List.length_map, List.length_map]) ?_)
      intro position entry outcome given first made
      rw [List.getElem?_map] at first made
      obtain ⟨field, declared, accepted⟩ := Option.map_eq_some_iff.mp first
      rw [declared] at made
      obtain rfl := Option.some.inj made
      have mem := List.mem_of_getElem? declared
      obtain ⟨unaliased, accepts⟩ := settled field mem
      have found : Entries.lookup? field.1 results = some entry.2 := by
        rw [← (fieldOutcome_eq_ok unaliased accepted).1]
        exact Entries.lookup?_of_mem (names ▸ distinct) (List.mem_of_getElem? given)
      refine fieldOutcome_renewed unaliased accepted found (each field mem) ?_
      intro default declared
      exact default_renewed (accepts default declared)
        (fun steady => kept steady field mem default declared) _

theorem validate_renewed {schema : Schema} (settled : schema.Everywhere IsSettled)
    {value result : Value} {location : Location}
    (accepted : schema.validate value location = .ok result) (place : Location) :
    Renewed (schema.Everywhere IsSteady) result (schema.validate result place) := by
  induction schema generalizing value result location place with
  | any => exact .same result
  | scalar type =>
      rw [validate, judge_eq_ok_iff] at accepted
      rw [validate, Scalar.coerce_coerce accepted]
      exact .same result
  | enumeration type =>
      rw [validate, judge_eq_ok_iff] at accepted
      rw [validate, EnumType.coerce_coerce accepted]
      exact .same result
  | anyMember =>
      cases value with
      | member enumeration name payload =>
          cases accepted
          exact .same _
      | _ => cases accepted
  | instanceOf typeName =>
      rw [validate] at accepted
      split at accepted
      · rename_i same
        cases accepted
        rw [validate, if_pos same]
        exact .same value
      · cases accepted
  | literal alternatives =>
      rw [validate] at accepted
      split at accepted
      · rename_i same
        cases accepted
        rw [validate, if_pos same]
        exact .same value
      · cases accepted
  | list item ih =>
      cases value with
      | list items =>
          refine validate_list_renewed accepted (fun _ _ _ place read => ?_) place
          exact (ih (settled.child (.head _)) read place).imp fun steady => steady.child (.head _)
      | _ => cases accepted
  | tuple positions ih =>
      cases value with
      | list items =>
          refine validate_tuple_renewed accepted (fun schema mem _ _ _ place read => ?_) place
          exact (ih schema mem (settled.child mem) read place).imp fun steady => steady.child mem
      | _ => cases accepted
  | dict item ih =>
      cases value with
      | map entries =>
          refine validate_dict_renewed accepted (fun _ _ _ place read => ?_) place
          exact (ih (settled.child (.head _)) read place).imp fun steady => steady.child (.head _)
      | _ => cases accepted
  | optional inner ih =>
      rw [validate] at accepted
      rw [validate]
      split
      · rename_i null
        cases result with
        | null => exact .same _
        | _ => cases null
      · rename_i given
        split at accepted
        · cases accepted
          exact absurd rfl given
        · exact (ih (settled.child (.head _)) accepted place).imp
            fun steady => steady.child (.head _)
  | union members ih =>
      rcases check_of_validate_union accepted with rfl | ⟨schema, mem, read⟩
      · exact .same result
      · obtain ⟨again, read, -⟩ := ih schema mem (settled.child mem) read place
        have accepts : schema.Accepts result := (accepts_iff_validate place).mpr ⟨again, read⟩
        obtain ⟨chosen, made⟩ := (accepts_iff_validate place).mp
          (union_accepts_iff.mpr (.inr ⟨schema, mem, accepts⟩))
        exact ⟨chosen, made, fun steady => steady.here.elim⟩
  | annotated inner checks _ => exact settled.here.elim
  | model name fields ih =>
      refine validate_model_renewed settled.here (fun steady => steady.here) accepted
        (fun field mem _ _ _ place read => ?_) place
      have child : field.2.schema ∈ (Schema.model name fields).children :=
        List.mem_map_of_mem mem
      exact (ih field mem (settled.child child) read place).imp fun steady => steady.child child

/-- What a value is accepted as is accepted again, at any location. Without a choice between
members, and where the defaults are themselves in normal form, it is then left as it is. The
names of the fields of a model are distinct, as `Entries.insert` keeps them. -/
theorem accepted_in_normal_form (schema : Schema) (settled : schema.Everywhere IsSettled)
    (value result : Value) (location place : Location)
    (accepted : schema.validate value location = .ok result) :
    (∃ again, schema.validate result place = .ok again) ∧
      (schema.Everywhere IsSteady → schema.validate result place = .ok result) := by
  obtain ⟨again, read, same⟩ := validate_renewed settled accepted place
  exact ⟨⟨again, read⟩, fun steady => same steady ▸ read⟩

/-- A day given as its midnight, and a number given as a truth value; a choice of numbers is
accepted again, and a number is kept. -/
theorem accepted_in_normal_form_of_visit :
    let day : Date := ⟨2024, 5, 1, by decide⟩
    let visit (guest : Schema) : Schema := .model "Visit" [("day", .required (.scalar .date)),
      ("guests", .optional (.list guest) (.list []))]
    let choice : Schema := .union [.scalar .int, .scalar .float]
    let value : Value := .map [("guests", .list [.bool true]),
      ("day", .datetime ⟨day, Time.midnight⟩)]
    let result : Value := .map [("day", .date day), ("guests", .list [.int 1])]
    (visit choice).Everywhere IsSettled ∧ (visit (.scalar .int)).Everywhere IsSettled ∧
      (visit choice).validate value Location.root = .ok result ∧
      (visit (.scalar .int)).validate value Location.root = .ok result ∧
      (∃ again, (visit choice).validate result [.field "again"] = .ok again) ∧
      (visit (.scalar .int)).Everywhere IsSteady ∧
      (visit (.scalar .int)).validate result [.field "again"] = .ok result := by
  intro day visit choice value result
  have scalar (type : Scalar) (property : Schema → Prop) (here : property (.scalar type)) :
      (Schema.scalar type).Everywhere property :=
    everywhere_iff.mpr ⟨here, fun _ mem => nomatch mem⟩
  have whole (guest : Schema) (property : Schema → Prop) (here : property (visit guest))
      (date : property (.scalar .date)) (guests : property (.list guest))
      (inner : guest.Everywhere property) : (visit guest).Everywhere property := by
    have list : (Schema.list guest).Everywhere property :=
      everywhere_iff.mpr ⟨guests, by simpa [children] using inner⟩
    exact everywhere_iff.mpr ⟨here, by
      simp [visit, children, Slot.required, Slot.optional, scalar _ _ date, list]⟩
  have settled (guest : Schema) (inner : guest.Everywhere IsSettled) :
      (visit guest).Everywhere IsSettled := by
    refine whole guest IsSettled ⟨?_, ?_⟩ trivial trivial inner
    · show ["day", "guests"].Nodup
      decide
    · simp only [List.forall_mem_cons, List.not_mem_nil, false_imp_iff, implies_true, and_true]
      refine ⟨⟨rfl, fun _ => nofun⟩, rfl, ?_⟩
      rintro default ⟨⟩
      exact ⟨_, rfl⟩
  have chosen : (visit choice).Everywhere IsSettled :=
    settled choice (everywhere_iff.mpr ⟨trivial, List.forall_mem_cons.mpr
      ⟨scalar .int _ trivial, List.forall_mem_singleton.mpr (scalar .float _ trivial)⟩⟩)
  have counted : (visit (.scalar .int)).Everywhere IsSettled :=
    settled _ (scalar .int IsSettled trivial)
  have steady : (visit (.scalar .int)).Everywhere IsSteady := by
    refine whole _ IsSteady ?_ trivial trivial (scalar .int IsSteady trivial)
    show ∀ field ∈ _, _
    simp only [List.forall_mem_cons, List.not_mem_nil, false_imp_iff, implies_true, and_true]
    refine ⟨fun _ => nofun, ?_⟩
    rintro default ⟨⟩
    rfl
  have read : (visit choice).validate value Location.root = .ok result := rfl
  have read' : (visit (.scalar .int)).validate value Location.root = .ok result := rfl
  exact ⟨chosen, counted, read, read',
    (accepted_in_normal_form _ chosen value result _ _ read).1, steady,
    (accepted_in_normal_form _ counted value result _ _ read').2 steady⟩

end Schema

end Containment
