import Containment.Proofs.Schema.Acceptance

namespace Containment

/-! Choices between schemas. The members that a value belongs to come first, then all members in
order. The first that accepts decides, and where none accepts all of their reports are joined. -/

namespace Report

variable {α : Type}

theorem choose_error_cons (lastResort : α) (report : Report) {rest : List (Except Report α)}
    (more : rest ≠ []) :
    choose lastResort (.error report :: rest) =
      (choose lastResort rest).mapError (report ++ ·) := by
  rw [choose]
  · cases choose lastResort rest <;> rfl
  · exact more

/-- What is reported of outcomes is each of their reports, one after the other. -/
theorem reports_of_choose {lastResort : α} {outcomes : List (Except Report α)} {report : Report}
    (chosen : choose lastResort outcomes = .error report) :
    ∃ reports : List Report, outcomes = reports.map .error ∧
      report.toList = reports.flatMap toList := by
  induction outcomes generalizing report with
  | nil => cases chosen
  | cons outcome rest ih =>
      cases outcome with
      | ok value => cases chosen
      | error first =>
          by_cases last : rest = []
          · subst last
            cases chosen
            exact ⟨[report], rfl, by simp⟩
          · rw [choose_error_cons _ _ last, mapError_eq_error_iff] at chosen
            obtain ⟨others, chosen, rfl⟩ := chosen
            obtain ⟨reports, rfl, joined⟩ := ih chosen
            exact ⟨first :: reports, rfl, by rw [toList_append, joined, List.flatMap_cons]⟩

end Report

namespace Schema

/-- The result of the first member in order that fulfils a condition and accepts the value. -/
inductive FirstAccepted (eligible : Schema → Prop) (value : Value) :
    List Schema → Value → Prop where
  | here {schema : Schema} {rest : List Schema} {result : Value} (meets : eligible schema)
      (accepted : schema.check value = .ok result) :
      FirstAccepted eligible value (schema :: rest) result
  | later {schema : Schema} {rest : List Schema} {result : Value}
      (passed : eligible schema → ¬ schema.Accepts value)
      (first : FirstAccepted eligible value rest result) :
      FirstAccepted eligible value (schema :: rest) result

/-- What a value comes to where there is a choice. Each member reports at a location that ends
with its own text. -/
inductive Choice (members : List Schema) (value : Value) (location : Location) :
    Except Report Value → Prop where
  | exact {result : Value}
      (first : FirstAccepted (fun schema => schema.isExact value = true) value members result) :
      Choice members value location (.ok result)
  | lax {result : Value}
      (none : ∀ schema ∈ members, schema.isExact value = true → ¬ schema.Accepts value)
      (first : FirstAccepted (fun _ => True) value members result) :
      Choice members value location (.ok result)
  | rejected {reports : List Report} {report : Report}
      (each : (members.map fun schema => schema.validate value (location.field schema.render)) =
        reports.map .error)
      (joined : report.toList = reports.flatMap Report.toList) :
      Choice members value location (.error report)

namespace FirstAccepted

variable {eligible : Schema → Prop} {value result other : Value} {members : List Schema}

theorem exists_mem (first : FirstAccepted eligible value members result) :
    ∃ schema ∈ members, eligible schema ∧ schema.check value = .ok result := by
  induction first with
  | here meets accepted => exact ⟨_, .head _, meets, accepted⟩
  | later _ _ ih =>
      obtain ⟨schema, mem, found⟩ := ih
      exact ⟨schema, .tail _ mem, found⟩

theorem false_of_none (first : FirstAccepted eligible value members result)
    (none : ∀ schema ∈ members, eligible schema → ¬ schema.Accepts value) : False := by
  obtain ⟨schema, mem, meets, accepted⟩ := first.exists_mem
  exact none schema mem meets ⟨result, accepted⟩

theorem unique (first : FirstAccepted eligible value members result)
    (second : FirstAccepted eligible value members other) : result = other := by
  induction first with
  | here meets accepted =>
      cases second with
      | here _ accepted' => exact Except.ok.inj (accepted.symm.trans accepted')
      | later passed _ => exact absurd ⟨_, accepted⟩ (passed meets)
  | later passed _ ih =>
      cases second with
      | here meets accepted => exact absurd ⟨_, accepted⟩ (passed meets)
      | later _ second => exact ih second

end FirstAccepted

variable {members : List Schema} {value : Value} {location : Location}

theorem firstAccepted_of_validateExact? {result : Value}
    (found : validateExact? members value location = some result) :
    FirstAccepted (fun schema => schema.isExact value = true) value members result := by
  induction members with
  | nil => cases found
  | cons schema rest ih =>
      rw [validateExact?] at found
      split at found
      · rename_i exact
        split at found
        · rename_i accepted
          cases found
          exact .here exact (validate_eq_ok_iff.mp accepted)
        · rename_i failed
          refine .later (fun _ accepts => ?_) (ih found)
          obtain ⟨result, accepted⟩ := (accepts_iff_validate location).mp accepts
          cases failed.symm.trans accepted
      · rename_i foreign
        exact .later (fun exact => absurd exact foreign) (ih found)

theorem none_exact_of_validateExact? (found : validateExact? members value location = none) :
    ∀ schema ∈ members, schema.isExact value = true → ¬ schema.Accepts value := by
  induction members with
  | nil => exact fun _ mem => nomatch mem
  | cons schema rest ih =>
      rw [validateExact?] at found
      rw [List.forall_mem_cons]
      split at found
      · split at found
        · cases found
        · rename_i failed
          refine ⟨fun _ accepts => ?_, ih found⟩
          obtain ⟨result, accepted⟩ := (accepts_iff_validate location).mp accepts
          cases failed.symm.trans accepted
      · rename_i foreign
        exact ⟨fun exact => absurd exact foreign, ih found⟩

theorem firstAccepted_of_choose {lastResort result : Value} (some : members ≠ [])
    (chosen : Report.choose lastResort (validateAlternatives members value location) =
      .ok result) : FirstAccepted (fun _ => True) value members result := by
  induction members with
  | nil => exact absurd rfl some
  | cons schema rest ih =>
      rw [validateAlternatives] at chosen
      cases outcome : schema.validate value (location.field schema.render) with
      | ok accepted =>
          rw [outcome] at chosen
          cases chosen
          exact .here trivial (validate_eq_ok_iff.mp outcome)
      | error report =>
          rw [outcome] at chosen
          cases rest with
          | nil => cases chosen
          | cons second others =>
              rw [Report.choose_error_cons _ _ (by simp [validateAlternatives]),
                mapError_eq_ok_iff] at chosen
              refine .later (fun _ accepts => ?_) (ih (by simp) chosen)
              obtain ⟨result, accepted⟩ := (accepts_iff_validate _).mp accepts
              cases outcome.symm.trans accepted

/-- Where each member reports, none accepts. -/
theorem not_accepts_of_reports {reports : List Report}
    (each : (members.map fun schema => schema.validate value (location.field schema.render)) =
      reports.map .error) : ∀ schema ∈ members, ¬ schema.Accepts value := by
  intro schema mem accepts
  obtain ⟨result, accepted⟩ := (accepts_iff_validate (location.field schema.render)).mp accepts
  have among := List.mem_map_of_mem
    (f := fun schema => schema.validate value (location.field schema.render)) mem
  rw [each, accepted] at among
  obtain ⟨report, -, same⟩ := List.mem_map.mp among
  cases same

theorem Choice.unique {outcome other : Except Report Value}
    (first : Choice members value location outcome)
    (second : Choice members value location other) : outcome = other := by
  cases first with
  | exact first =>
      cases second with
      | exact second => rw [first.unique second]
      | lax none _ => exact (first.false_of_none none).elim
      | rejected each _ =>
          exact (first.false_of_none fun schema mem _ =>
            not_accepts_of_reports each schema mem).elim
  | lax none first =>
      cases second with
      | exact second => exact (second.false_of_none none).elim
      | lax _ second => rw [first.unique second]
      | rejected each _ =>
          exact (first.false_of_none fun schema mem _ =>
            not_accepts_of_reports each schema mem).elim
  | rejected each joined =>
      cases second with
      | exact second | lax _ second =>
          exact (second.false_of_none fun schema mem _ =>
            not_accepts_of_reports each schema mem).elim
      | rejected each' joined' =>
          obtain rfl := (List.map_inj_right fun _ _ => Except.error.inj).mp
            (each.symm.trans each')
          rw [Report.toList_injective (joined.trans joined'.symm)]

/-- The function that validates makes the choice, as long as there is one. -/
theorem choice_validate (some : members ≠ []) (value : Value) (location : Location) :
    Choice members value location ((Schema.union members).validate value location) := by
  rw [validate]
  cases found : validateExact? members value location with
  | some result => exact .exact (firstAccepted_of_validateExact? found)
  | none =>
      have none := none_exact_of_validateExact? found
      cases chosen : Report.choose value (validateAlternatives members value location) with
      | ok result => exact .lax none (firstAccepted_of_choose some chosen)
      | error report =>
          obtain ⟨reports, each, joined⟩ := Report.reports_of_choose chosen
          rw [validateAlternatives_eq_map] at each
          exact .rejected each joined

theorem check_of_validate_union {result : Value}
    (accepted : (Schema.union members).validate value location = .ok result) :
    members = [] ∨ ∃ schema ∈ members, schema.check value = .ok result := by
  by_cases empty : members = []
  · exact .inl empty
  · have choice := choice_validate empty value location
    rw [accepted] at choice
    cases choice with
    | exact first | lax _ first =>
        obtain ⟨schema, mem, -, accepted⟩ := first.exists_mem
        exact .inr ⟨schema, mem, accepted⟩

/-- Some member accepts, or there is none that could reject. -/
theorem union_accepts_iff :
    (Schema.union members).Accepts value ↔
      members = [] ∨ ∃ schema ∈ members, schema.Accepts value := by
  constructor
  · rintro ⟨result, accepted⟩
    refine (check_of_validate_union accepted).imp_right ?_
    rintro ⟨schema, mem, accepted⟩
    exact ⟨schema, mem, result, accepted⟩
  · rintro (rfl | ⟨schema, mem, accepts⟩)
    · exact ⟨value, rfl⟩
    · have choice := choice_validate (List.ne_nil_of_mem mem) value Location.root
      rw [Accepts, check]
      cases outcome : (Schema.union members).validate value Location.root with
      | ok result => exact ⟨result, rfl⟩
      | error report =>
          rw [outcome] at choice
          cases choice with
          | rejected each _ => exact absurd accepts (not_accepts_of_reports each schema mem)

/-- A value comes to the result of the first member that it belongs to and that accepts it, or
else of the first member that accepts it, or else to the reports of all members, each under the
text of its member. Neither order nor repetition of members decides whether it is accepted. -/
theorem union_selects_first (members : List Schema) (some : members ≠ []) (value : Value)
    (location : Location) :
    (∀ outcome, (Schema.union members).validate value location = outcome ↔
        Choice members value location outcome) ∧
      ∀ others : List Schema, (∀ schema, schema ∈ others ↔ schema ∈ members) →
        ((∃ result, (Schema.union others).validate value location = .ok result) ↔
          ∃ result, (Schema.union members).validate value location = .ok result) := by
  have choice := choice_validate some value location
  refine ⟨fun outcome => ⟨fun same => same ▸ choice, choice.unique⟩, fun others same => ?_⟩
  have empty : others = [] ↔ members = [] := by
    simp only [List.eq_nil_iff_forall_not_mem, same]
  rw [← accepts_iff_validate, ← accepts_iff_validate, union_accepts_iff, union_accepts_iff, empty]
  simp only [same]

/-- A number stays what it is where texts are asked for first, and a list is reported once for
each member. -/
theorem union_selects_first_of_text_or_number :
    let members : List Schema := [.scalar .str, .scalar .int]
    let others : List Schema := [.scalar .int, .scalar .str, .scalar .int]
    members ≠ [] ∧ (∀ schema, schema ∈ others ↔ schema ∈ members) ∧
      Choice members (.int 1) [.field "id"] (.ok (.int 1)) ∧
      (∃ report, Choice members (.list []) [.field "id"] (.error report) ∧
        report.locations = [[.field "id", .field "str"], [.field "id", .field "int"]]) ∧
      ((∃ result, (Schema.union others).validate (.int 1) [.field "id"] = .ok result) ↔
        ∃ result, (Schema.union members).validate (.int 1) [.field "id"] = .ok result) := by
  intro members others
  have some : members ≠ [] := List.cons_ne_nil _ _
  have same : ∀ schema, schema ∈ others ↔ schema ∈ members := by
    intro schema
    simp only [others, members, List.mem_cons, List.not_mem_nil, or_false]
    constructor
    · rintro (rfl | rfl | rfl)
      · exact .inr rfl
      · exact .inl rfl
      · exact .inr rfl
    · rintro (rfl | rfl)
      · exact .inr (.inl rfl)
      · exact .inl rfl
  obtain ⟨number, permuted⟩ := union_selects_first members some (.int 1) [.field "id"]
  have list := (union_selects_first members some (.list []) [.field "id"]).1
  exact ⟨some, same, (number _).mp rfl, ⟨_, (list _).mp rfl, rfl⟩, permuted others same⟩

/-- That what is accepted is accepted by some member holds of exactly the choices that there are:
without members nothing rejects. -/
theorem union_accepts_through_member_iff (members : List Schema) :
    (∀ value location, (∃ result, (Schema.union members).validate value location = .ok result) →
        ∃ schema ∈ members, ∃ result, schema.validate value location = .ok result) ↔
      members ≠ [] := by
  simp only [← accepts_iff_validate, union_accepts_iff]
  constructor
  · rintro through rfl
    obtain ⟨schema, mem, -⟩ := through .null Location.root (.inl rfl)
    exact List.not_mem_nil mem
  · exact fun some _ _ accepted => accepted.resolve_left some

theorem empty_union_accepts_one :
    (∃ result, (Schema.union []).validate (.int 1) Location.root = .ok result) ∧
      ¬ ∃ schema ∈ ([] : List Schema), ∃ result,
        schema.validate (.int 1) Location.root = .ok result :=
  ⟨⟨.int 1, rfl⟩, fun ⟨_, mem, _⟩ => List.not_mem_nil mem⟩

/-- As a member of another choice, it keeps the members behind it from reading the text. -/
example : (Schema.union [.union [], .scalar .int]).check (.str "5") = .ok (.str "5") := rfl

end Schema

end Containment
